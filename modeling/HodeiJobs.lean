import HodeiJobs.Sagas.FailedSteps
import HodeiJobs.Sagas.RoundTrip
import HodeiJobs.Sagas.Admission
import HodeiJobs.Sagas.TerminalState
import HodeiJobs.Sagas.Resumption
import HodeiJobs.Sagas.StatePath
import HodeiJobs.Dispatch.Rebuild
import HodeiJobs.Interface.WorkerStreams
import HodeiJobs.Interface.WorkerRegistration
import HodeiJobs.Cleanup.Selection
import HodeiJobs.Lifecycle.WorkerStates
import HodeiJobs.WorkerAgent.Registry
import HodeiJobs.Dispatch.Rerun
import HodeiJobs.Sagas.RateLimiter
import HodeiJobs.Jobs.Attempts
import HodeiJobs.Jobs.StatusTracker
import HodeiJobs.Sagas.CachedRepository
import HodeiJobs.Jobs.Bookkeeping
import HodeiJobs.Scheduling.Assignment
import HodeiJobs.Scheduling.Provisioning
import HodeiJobs.Jobs.ScheduledJobs
import HodeiJobs.Scheduling.Requeue
import HodeiJobs.Scheduling.Cooldown
import HodeiJobs.Scheduling.CacheExpiry
import HodeiJobs.Scheduling.ProviderTypeMapping
import HodeiJobs.Scheduling.ScoreDominance
import HodeiJobs.Messaging.SagaConsumers
import HodeiJobs.Messaging.PublishRetries
import HodeiJobs.Messaging.Backoff
import HodeiJobs.Commands.CommandRelay
import HodeiJobs.Outbox.Poller
import HodeiJobs.Outbox.ReactiveRelay
import HodeiJobs.Messaging.EventHasher
import HodeiJobs.Logging.EvictionLocks
import HodeiJobs.Recovery.Reassignment
import HodeiJobs.Recovery.FailureRuns
import HodeiJobs.Provisioning.Compensation
import HodeiJobs.Persistence.Submission
import HodeiJobs.Interface.Subscription
import HodeiJobs.Providers.ActiveWorkers
import HodeiJobs.Templates.TriggerRuns
import HodeiJobs.Providers.CircuitBreaker
import HodeiJobs.Resilience.CircuitBreaker
import HodeiJobs.Credentials.LockOrder
import HodeiJobs.Credentials.DefaultProvider
import HodeiJobs.Supervision.WorkerSupervisor
import HodeiJobs.Workers.GarbageCollector
import HodeiJobs.Workers.OrphanCollection
import HodeiJobs.Iam.BootstrapTokens
import HodeiJobs.Templates.ReadModel
import HodeiJobs.Jobs.Expiry
import HodeiJobs.Sagas.CircuitPanics
import HodeiJobs.Sagas.EventStoreRuns
import HodeiJobs.Persistence.Peek
import HodeiJobs.Sagas.StepSaves
import HodeiJobs.Dispatch.IdempotencyKeys
import HodeiJobs.Interface.LogBufferRuns
import HodeiJobs.WorkerAgent.RunJob
import HodeiJobs.Workers.AutoScaling
import HodeiJobs.WorkerAgent.LogBatcher
import HodeiJobs.Interface.SubscriptionRoom
import HodeiJobs.WorkerAgent.SecretPaths
import HodeiJobs.Providers.ProviderSelection
import HodeiJobs.Persistence.WorkerFilter
import HodeiJobs.Resilience.RetryDelays
import HodeiJobs.Providers.ConfigRoundTrip
import HodeiJobs.Providers.FirecrackerVms
