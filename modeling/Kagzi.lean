import Kagzi.Logic.Process
import Kagzi.Store.Models
import Kagzi.Store.Workflow
import Kagzi.Store.Step
import Kagzi.Store.Worker
import Kagzi.Store.Repository
import Kagzi.Logic.Recurrence
import Kagzi.Server.Status
import Kagzi.Server.Api
import Kagzi.Server.WorkerService
import Kagzi.Server.WorkflowService
import Kagzi.Server.Coordinator
import Kagzi.Server.ScheduleService
import Kagzi.Server.Service
import Kagzi.Server.Footprint
import Kagzi.Store.RunChange
import Kagzi.Server.CoordinatorRule
import Kagzi.Lifecycle
import Kagzi.Lease
import Kagzi.Fencing
import Kagzi.Memoization
import Kagzi.Replay
import Kagzi.Firing
import Kagzi.OnTime
import Kagzi.Catchup
import Kagzi.Pause
import Kagzi.LostUpdate
import Kagzi.Unexecuted
import Kagzi.Success
import Kagzi.History
import Kagzi.Output
import Kagzi.Confined
import Kagzi.Custody
import Kagzi.Isolation
import Kagzi.Sleeping
import Kagzi.WorkflowRetry
import Kagzi.Payload
import Kagzi.Store.WorkerChange
import Kagzi.Online
import Kagzi.Offline
import Kagzi.Disabled
import Kagzi.SleepDuration
import Kagzi.Exclusive
import Kagzi.Idempotence
import Kagzi.Logic.Keyset
import Kagzi.Server.Listing
import Kagzi.Sdk.Builder
import Kagzi.Routing
import Kagzi.Sdk.Worker
import Kagzi.Paging
import Kagzi.Budget
import Kagzi.Backoff
import Kagzi.HeldRuns
import Kagzi.StepFailure
import Kagzi.FrozenHistory
import Kagzi.RunShape
import Kagzi.Logic.ReadCommitted
import Kagzi.Store.StepTransactions
import Kagzi.AttemptTable
import Kagzi.LiveAttempts
import Kagzi.Cancel
import Kagzi.StepReport
import Kagzi.FailRepeat
import Kagzi.LifecycleRows
import Kagzi.ScheduleEdits
import Kagzi.Slots
import Kagzi.Server.Namespaces
import Kagzi.HasMore
import Kagzi.Filters
import Kagzi.Statistics
import Kagzi.Logic.Broadcast
import Kagzi.Queue.Notifier
import Kagzi.Queue.Subscribers
import Kagzi.Queue.Keys
import Kagzi.PollBackoff
import Kagzi.Logic.Early
import Kagzi.Server.Vouched
import Kagzi.PayloadSizes
import Kagzi.CronExpressions
import Kagzi.RetryIntervals
import Kagzi.Reregistration
import Kagzi.Logic.Monitor
import Kagzi.Server.Notified
import Kagzi.WakeUp
import Kagzi.Delivery
import Kagzi.Logic.Refinement
import Kagzi.Unnotified
import Kagzi.Durable
import Kagzi.Fairness
import Kagzi.Graceful
import Kagzi.Completion
import Kagzi.Logic.Drift
import Kagzi.Roster
