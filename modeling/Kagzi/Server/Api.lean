import Kagzi.Server.Status

/-!
# Requests and responses

The messages of the services, with the fields the handlers read or write.
Identifiers of runs, workers and schedules are text until a handler parses
them.
-/

namespace Kagzi

/-! ## Workflow service -/

structure StartWorkflowRequest where
  externalId : String
  taskQueue : String
  workflowType : String
  input : Option Payload
  ns : String
  version : String
  retryPolicy : Option ProtoPolicy
deriving DecidableEq

structure GetWorkflowRequest where
  runId : String
  ns : String
deriving DecidableEq

/-- `Workflow`, without the fields that are never set. -/
structure Workflow where
  runId : String
  externalId : String
  ns : String
  taskQueue : String
  workflowType : String
  status : WorkflowStatus
  input : Payload
  output : Payload
  error : Option ErrorDetail
  attempts : Int
  createdAt : Int
  startedAt : Option Int
  finishedAt : Option Int
  wakeUpAt : Option Int
  workerId : Option String
  version : String
  cronExpr : Option String
  scheduleId : Option String
deriving DecidableEq

structure CancelWorkflowRequest where
  runId : String
  ns : String
deriving DecidableEq

structure RetryWorkflowRequest where
  runId : String
  ns : String
deriving DecidableEq

structure TerminateWorkflowRequest where
  runId : String
  ns : String
  reason : String
deriving DecidableEq

/-! ## Worker service -/

structure RegisterRequest where
  ns : String
  taskQueue : String
  workflowTypes : List String
  hostname : String
  pid : Int
  version : String
deriving DecidableEq

structure HeartbeatRequest where
  workerId : String
deriving DecidableEq

structure DeregisterRequest where
  workerId : String
  drain : Bool
deriving DecidableEq

structure PollTaskRequest where
  taskQueue : String
  workerId : String
  ns : String
  workflowTypes : List String
deriving DecidableEq

/-- `kind` is the number of the enumerator. -/
structure BeginStepRequest where
  ns : String
  runId : String
  stepName : String
  kind : Int
  input : Option Payload
  retryPolicy : Option ProtoPolicy
deriving DecidableEq

structure CompleteStepRequest where
  ns : String
  runId : String
  stepId : String
  output : Option Payload
deriving DecidableEq

structure FailStepRequest where
  ns : String
  runId : String
  stepId : String
  error : Option ErrorDetail
deriving DecidableEq

structure CompleteWorkflowRequest where
  ns : String
  runId : String
  output : Option Payload
deriving DecidableEq

structure FailWorkflowRequest where
  ns : String
  runId : String
  error : Option ErrorDetail
deriving DecidableEq

/-- `google.protobuf.Duration`. -/
structure ProstDuration where
  seconds : Int
  nanos : Int
deriving DecidableEq

structure SleepRequest where
  ns : String
  runId : String
  stepId : String
  duration : Option ProstDuration
deriving DecidableEq

/-- The kind of a step on the wire. -/
inductive ProtoStepKind where
  | function
  | sleep
  | lifecycle
deriving DecidableEq

/-- `Step`. -/
structure Step where
  stepId : String
  runId : String
  ns : String
  kind : ProtoStepKind
  status : StepStatus
  attemptNumber : Int
  input : Payload
  output : Payload
  error : Option ErrorDetail
  createdAt : Option Int
  startedAt : Option Int
  finishedAt : Option Int
deriving DecidableEq

/-! ## Schedule service -/

structure CreateWorkflowScheduleRequest where
  ns : String
  scheduleId : String
  taskQueue : String
  workflowType : String
  cronExpr : String
  input : Option Payload
  enabled : Option Bool
  maxCatchup : Option Int
  version : Option String
deriving DecidableEq

structure UpdateWorkflowScheduleRequest where
  ns : String
  scheduleId : String
  taskQueue : Option String
  workflowType : Option String
  cronExpr : Option String
  input : Option Payload
  enabled : Option Bool
  maxCatchup : Option Int
  nextFireAt : Option Int
  version : Option String
deriving DecidableEq

/-- A request that names a schedule and a namespace. -/
structure ScheduleRequest where
  ns : String
  scheduleId : String
deriving DecidableEq

/-- `WorkflowSchedule`, without the counters, which are always zero. -/
structure WorkflowSchedule where
  scheduleId : String
  ns : String
  taskQueue : String
  workflowType : String
  cronExpr : String
  input : Payload
  enabled : Bool
  maxCatchup : Int
  nextFireAt : Int
  lastFiredAt : Option Int
  version : String
  createdAt : Int
deriving DecidableEq

/-! ## The union of the services -/

/-- A request, or the coordinator with the number of ticks it makes before it
stops.  A poll carries the number of times it waits for a notification before
its deadline. -/
inductive Request where
  | startWorkflow (req : StartWorkflowRequest)
  | getWorkflow (req : GetWorkflowRequest)
  | cancelWorkflow (req : CancelWorkflowRequest)
  | retryWorkflow (req : RetryWorkflowRequest)
  | terminateWorkflow (req : TerminateWorkflowRequest)
  | register (req : RegisterRequest)
  | heartbeat (req : HeartbeatRequest)
  | deregister (req : DeregisterRequest)
  | pollTask (req : PollTaskRequest) (waits : Nat)
  | beginStep (req : BeginStepRequest)
  | completeStep (req : CompleteStepRequest)
  | failStep (req : FailStepRequest)
  | completeWorkflow (req : CompleteWorkflowRequest)
  | failWorkflow (req : FailWorkflowRequest)
  | sleep (req : SleepRequest)
  | createWorkflowSchedule (req : CreateWorkflowScheduleRequest)
  | updateWorkflowSchedule (req : UpdateWorkflowScheduleRequest)
  | deleteWorkflowSchedule (req : ScheduleRequest)
  | triggerWorkflowSchedule (req : ScheduleRequest)
  | pauseWorkflowSchedule (req : ScheduleRequest)
  | resumeWorkflowSchedule (req : ScheduleRequest)
  | drainWorker (workerId : String)
  | enableNamespace (ns : String)
  | disableNamespace (ns : String)
  | coordinator (ticks : Nat)
deriving DecidableEq

inductive Response where
  | startWorkflow (runId : String) (alreadyExists : Bool)
  | getWorkflow (workflow : Workflow)
  | cancelWorkflow (cancelled : Bool) (status : WorkflowStatus)
  | retryWorkflow (newRunId : String) (alreadyRunning : Bool)
  | terminateWorkflow (terminated : Bool) (status : WorkflowStatus)
  | register (workerId : String) (heartbeatIntervalSecs : Int)
  | heartbeat (accepted shouldDrain : Bool)
  | deregister (drained : Bool)
  | pollTask (runId workflowType : String) (input : Payload)
  | beginStep (stepId : String) (shouldExecute : Bool) (cachedOutput : Payload)
  | completeStep (step : Step)
  | failStep (scheduledRetry : Bool)
  | completeWorkflow (status : WorkflowStatus)
  | failWorkflow (status : WorkflowStatus)
  | sleep
  | schedule (schedule : WorkflowSchedule)
  | deleteWorkflowSchedule (deleted : Bool)
  | triggerWorkflowSchedule (runId : String)
  | drainWorker (success : Bool)
  | namespace (enabled : Bool)
  | coordinator (errors : List StoreError)
deriving DecidableEq

end Kagzi
