import Mathlib.Algebra.Group.Nat.Defs
import HodeiJobs.Dispatch.Dispatchers
import HodeiJobs.Outbox.Emission

/-!
# The failure handlers

`DispatchFailureHandler`, `ProvisioningFailureHandler` and `SchedulingFailureHandler`, as
the calls that they make for an event. Only the second one reads, and only before it writes.
-/

namespace HodeiJobs.Recovery

open HodeiJobs.Dispatch (ProviderId)
open HodeiJobs.Execution (JobId Tables WorkerId)
open HodeiJobs.Outbox (OutboxEventInsert RowTexts timestamp)
open HodeiJobs.Sagas (DateTime Json)
open HodeiJobs.Shared (JobState)

/-! ## Reasons -/

inductive DispatchFailureReason where
  | workerNotReady (currentState : String)
  | communicationTimeout (timeoutMs : UInt64)
  | workerCrashed
  | channelClosed
  | protocolError (message : String)
  | networkError (message : String)

inductive ProvisioningFailureReason where
  | imagePullFailed (image message : String)
  | resourceAllocationFailed (resource message : String)
  | networkSetupFailed (message : String)
  | authenticationFailed (message : String)
  | timeout
  | providerUnavailable
  | internalError (message : String)
  | invalidConfiguration (field reason : String)

inductive SchedulingFailureReason where
  | noProvidersAvailable
  | noMatchingProviders (requirement : String)
  | providerOverloaded
  | providerUnhealthy (providerId : String)
  | resourceConstraintsNotMet (resource required available : String)
  | internalError (message : String)
  | jobCancelled
  | jobExpired

/-- The texts of rows, and the `{:?}` text of a reason. -/
structure FailureTexts extends RowTexts where
  dispatchReason : DispatchFailureReason → String

inductive RecoveryCall where
  | updateState (jobId : JobId) (state : JobState)
  | insertEvent (event : OutboxEventInsert)
  | unregister (workerId : WorkerId)

/-! ## Rows that the handlers share -/

section

variable (texts : RowTexts) (jobId : JobId)

/-- The key of a row that follows from the job and a number. -/
def jobKey (beginning : String) (number : Int) : String :=
  beginning ++ texts.uuids.display jobId.uuid ++ "-" ++ toString number

/-- `JobStatusChanged` of a job that is given up. The key has the second of the clock. -/
def jobFailedRow (previousState reason : String) (metadata : List (String × Json))
    (now : DateTime) : OutboxEventInsert :=
  .forJob jobId.uuid "JobStatusChanged"
    [("job_id", texts.uuid jobId.uuid), ("previous_state", .string previousState),
      ("new_state", .string "Failed"), ("failure_reason", .string reason)]
    metadata (jobKey texts jobId "job-failed-" (timestamp now))

/-- The fields that every `JobRequeued` row begins with. -/
def requeuedFields (retryCount : Int) (backoffSecs : Int) (reason : String) :
    List (String × Json) :=
  [("job_id", texts.uuid jobId.uuid), ("retry_count", .integer retryCount),
    ("backoff_seconds", .integer backoffSecs), ("reason", .string reason)]

end

/-! ## Dispatch failures -/

def maxDispatchRetries : UInt32 := 3

namespace DispatchFailureHandler

variable (texts : FailureTexts) (jobId : JobId)

def emitJobRequeued (nextRetry : UInt32) (backoffSecs : Nat) : OutboxEventInsert :=
  .forJob jobId.uuid "JobRequeued"
    (requeuedFields texts.toRowTexts jobId nextRetry.toNat backoffSecs "DISPATCH_FAILURE")
    [("source", .string "DispatchFailureHandler"), ("handler_type", .string "retry"),
      ("retry_attempt", .integer nextRetry.toNat), ("backoff_seconds", .integer backoffSecs)]
    (jobKey texts.toRowTexts jobId "job-requeued-" nextRetry.toNat)

def jobFailed (failureReason : DispatchFailureReason) (now : DateTime) : OutboxEventInsert :=
  jobFailedRow texts.toRowTexts jobId "Assigned"
    ("Dispatch failed after " ++ toString maxDispatchRetries.toNat ++ " retries: " ++
      texts.dispatchReason failureReason)
    [("source", .string "DispatchFailureHandler"), ("handler_type", .string "final_failure"),
      ("max_retries", .integer maxDispatchRetries.toNat)] now

def handleEvent (failureReason : DispatchFailureReason) (retryCount : UInt32) (now : DateTime) :
    List RecoveryCall :=
  if retryCount < maxDispatchRetries then
    [.insertEvent (emitJobRequeued texts jobId (retryCount + 1) (2 ^ retryCount.toNat))]
  else
    [.updateState jobId .failed, .insertEvent (jobFailed texts jobId failureReason now)]

end DispatchFailureHandler

/-! ## Provisioning failures -/

def maxProvisioningRetries : Nat := 2

namespace ProvisioningFailureHandler

variable (texts : RowTexts) (jobId : JobId)

def emitJobRequeued (retryCount backoffSecs : Nat) : OutboxEventInsert :=
  .forJob jobId.uuid "JobRequeued"
    (requeuedFields texts jobId retryCount backoffSecs "PROVISIONING_FAILURE" ++
      [("retry_strategy", .string "same_provider")])
    [("source", .string "ProvisioningFailureHandler"), ("handler_type", .string "retry"),
      ("retry_attempt", .integer retryCount), ("backoff_seconds", .integer backoffSecs)]
    (jobKey texts jobId "job-requeued-" retryCount)

def emitJobRequeuedDifferentProvider (excludedProvider : ProviderId) (retryCount : Nat) :
    OutboxEventInsert :=
  .forJob jobId.uuid "JobRequeued"
    (requeuedFields texts jobId retryCount (2 ^ retryCount : Nat) "PROVISIONING_FAILURE" ++
      [("retry_strategy", .string "different_provider"),
        ("excluded_provider_id", texts.uuid excludedProvider.uuid)])
    [("source", .string "ProvisioningFailureHandler"),
      ("handler_type", .string "retry_different_provider"), ("retry_attempt", .integer retryCount),
      ("excluded_provider", texts.uuid excludedProvider.uuid)]
    (jobKey texts jobId "job-requeued-diff-provider-" retryCount)

def jobFailed (reason : String) (now : DateTime) : OutboxEventInsert :=
  jobFailedRow texts jobId "Pending" reason
    [("source", .string "ProvisioningFailureHandler"), ("handler_type", .string "final_failure")]
    now

def markJobFailed (reason : String) (now : DateTime) : List RecoveryCall :=
  [.updateState jobId .failed, .insertEvent (jobFailed texts jobId reason now)]

def handleFailure (failedProvider : ProviderId) (now : DateTime) :
    ProvisioningFailureReason → List RecoveryCall
  | .imagePullFailed image message =>
      markJobFailed texts jobId ("Worker image '" ++ image ++ "' not found: " ++ message) now
  | .invalidConfiguration field reason =>
      markJobFailed texts jobId ("Invalid configuration for '" ++ field ++ "': " ++ reason) now
  | .authenticationFailed message =>
      markJobFailed texts jobId ("Provider authentication failed: " ++ message) now
  | .resourceAllocationFailed _ _ | .providerUnavailable =>
      [.insertEvent (emitJobRequeuedDifferentProvider texts jobId failedProvider 1)]
  | .timeout | .networkSetupFailed _ => [.insertEvent (emitJobRequeued texts jobId 1 5)]
  | .internalError _ => [.insertEvent (emitJobRequeued texts jobId 1 10)]

/-- The job whose id the correlation id is, if there is one. -/
def findAssociatedJob (tables : Tables) (correlationId : Option String) : Option JobId := do
  let uuid ← texts.uuids.parse (← correlationId)
  let job ← tables.jobs.find ⟨uuid⟩
  return job.id

def handleEvent (tables : Tables) (workerId : WorkerId) (providerId : ProviderId)
    (failureReason : ProvisioningFailureReason) (correlationId : Option String)
    (now : DateTime) : List RecoveryCall :=
  match findAssociatedJob texts tables correlationId with
  | some jobId => handleFailure texts jobId providerId now failureReason
  | none => [.unregister workerId]

end ProvisioningFailureHandler

/-! ## Scheduling failures -/

def maxSchedulingRetries : Nat := 5

def baseBackoffSecs : Nat := 30

namespace SchedulingFailureHandler

variable (texts : RowTexts) (jobId : JobId)

def scheduleRetry (backoffSecs : Nat) : OutboxEventInsert :=
  .forJob jobId.uuid "JobRequeued" (requeuedFields texts jobId 1 backoffSecs "SCHEDULING_FAILURE")
    [("source", .string "SchedulingFailureHandler"), ("handler_type", .string "retry"),
      ("backoff_seconds", .integer backoffSecs)]
    (jobKey texts jobId "job-scheduling-retry-" 1)

def scheduleRetryWithBackoff : OutboxEventInsert :=
  .forJob jobId.uuid "JobRequeued"
    (requeuedFields texts jobId 1 (baseBackoffSecs * 2 ^ 0 : Nat) "SCHEDULING_BACKPRESSURE" ++
      [("retry_strategy", .string "exponential_backoff")])
    [("source", .string "SchedulingFailureHandler"),
      ("handler_type", .string "backpressure_retry"), ("retry_attempt", .integer 1),
      ("backoff_seconds", .integer (baseBackoffSecs * 2 ^ 0 : Nat)),
      ("max_retries", .integer maxSchedulingRetries)]
    (jobKey texts jobId "job-scheduling-backoff-" 1)

def emitAlert (alertType : String) (now : DateTime) : OutboxEventInsert :=
  .forJob jobId.uuid "SystemAlert"
    [("alert_type", .string alertType), ("job_id", texts.uuid jobId.uuid),
      ("severity", .string (if alertType = "PROVIDERS_OVERLOADED" then "warning" else "info")),
      ("message", .string ("Scheduling failure: " ++ alertType))]
    [("source", .string "SchedulingFailureHandler"), ("alert_category", .string "scheduling")]
    ("alert-" ++ alertType ++ "-" ++ toString (timestamp now))

def jobFailed (reason : String) (now : DateTime) : OutboxEventInsert :=
  jobFailedRow texts jobId "Pending" reason
    [("source", .string "SchedulingFailureHandler"), ("handler_type", .string "final_failure")]
    now

def markJobFailed (reason : String) (now : DateTime) : List RecoveryCall :=
  [.updateState jobId .failed, .insertEvent (jobFailed texts jobId reason now)]

/-- `now` is read once for an event. -/
def handleFailure (now : DateTime) : SchedulingFailureReason → List RecoveryCall
  | .noProvidersAvailable =>
      [.insertEvent (emitAlert texts jobId "NO_PROVIDERS_AVAILABLE" now),
        .insertEvent (scheduleRetry texts jobId baseBackoffSecs)]
  | .providerOverloaded =>
      [.insertEvent (emitAlert texts jobId "PROVIDERS_OVERLOADED" now),
        .insertEvent (scheduleRetryWithBackoff texts jobId)]
  | .providerUnhealthy _ => [.insertEvent (scheduleRetry texts jobId baseBackoffSecs)]
  | .noMatchingProviders requirement =>
      markJobFailed texts jobId ("No provider matches job requirement: " ++ requirement) now
  | .resourceConstraintsNotMet resource required available =>
      markJobFailed texts jobId ("Resource constraint not met: " ++ resource ++ " requires " ++
        required ++ ", but only " ++ available ++ " available") now
  | .internalError _ =>
      [.insertEvent (emitAlert texts jobId "SCHEDULER_INTERNAL_ERROR" now),
        .insertEvent (scheduleRetryWithBackoff texts jobId)]
  | .jobCancelled => []
  | .jobExpired => markJobFailed texts jobId "Job expired while waiting in scheduling queue" now

end SchedulingFailureHandler

end HodeiJobs.Recovery
