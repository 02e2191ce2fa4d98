import Kagzi.Server.Api

/-!
# The worker service

The handlers of `worker_service.rs`, and `drain_worker` of `admin_service.rs`.
No request carries the worker or the claim it belongs to: the handlers of steps
and of the end of a run find the run by its id alone.
-/

namespace Kagzi

open Atomic

namespace WorkerService

/-- `validate_workflow_action` with `allow_terminal = false`, as every caller
has it. -/
def validateWorkflowAction (cfg : Config) (runId : Uuid) : Rpc String := do
  let found ← stmt (.getNamespace runId)
  let ns ← orFail found (notFoundError "Workflow not found" "workflow" (cfg.uuidText runId))
  let check ← stmt (.checkWorkflowState runId ns)
  if !check.exists? then
    .fail (notFoundError ("Workflow not found: run_id=" ++ cfg.uuidText runId) "workflow"
      (cfg.uuidText runId))
  else
    match check.status with
    | some status =>
        if status.isTerminal then
          .fail (preconditionFailedError
            ("Cannot perform action on workflow with terminal status '" ++ status.debug ++ "'"))
        else pure ns
    | none => pure ns

/-- `register`. -/
def register (cfg : Config) (req : RegisterRequest) : Rpc Response := do
  if req.workflowTypes.isEmpty then
    .fail (invalidArgumentError "workflow_types cannot be empty")
  else do
    requireNonEmpty req.ns "namespace"
    let workerId ← stmt (.registerWorker
      { ns := req.ns
        taskQueue := req.taskQueue
        workflowTypes := req.workflowTypes
        hostname := if req.hostname = "" then none else some req.hostname
        pid := if req.pid = 0 then none else some req.pid
        version := if req.version = "" then none else some req.version })
    pure (.register (cfg.uuidText workerId) cfg.worker.heartbeatIntervalSecs)

/-- `heartbeat`.  The runs are found by the text of the request, the worker by
the id it parses to. -/
def heartbeat (cfg : Config) (req : HeartbeatRequest) : Rpc Response := do
  let workerId ← cfg.uuid req.workerId "Invalid worker_id"
  if ← stmt (.heartbeatWorker workerId) then do
    let _ ← stmt (.extendVisibility req.workerId cfg.worker.heartbeatExtensionSecs)
    let worker ← stmt (.findWorker workerId)
    pure (.heartbeat true (worker.any fun w => w.status = .draining))
  else
    .fail (notFoundError "Worker not found or offline" "worker" req.workerId)

/-- Drain a worker, or take it offline. -/
def leave (workerId : Uuid) (ns : String) (drain : Bool) : Rpc Unit :=
  if drain then stmt (.startDrain workerId ns) else stmt (.deregisterWorker workerId ns)

/-- `deregister`. -/
def deregister (cfg : Config) (req : DeregisterRequest) : Rpc Response := do
  let workerId ← cfg.uuid req.workerId "Invalid worker_id"
  let found ← stmt (.findWorker workerId)
  let worker ← orFail found (notFoundError "Worker not found" "worker" req.workerId)
  leave workerId worker.ns req.drain
  pure (.deregister req.drain)

/-- `drain_worker`. -/
def drainWorker (cfg : Config) (workerText : String) : Rpc Response := do
  let workerId ← cfg.uuid workerText "Invalid worker_id"
  let found ← stmt (.findWorker workerId)
  let worker ← orFail found (notFoundError "Worker not found" "worker" workerText)
  stmt (.startDrain workerId worker.ns)
  pure (.drainWorker true)

/-- What `poll_task` does with a run it claimed. -/
def dispatch (cfg : Config) (item : ClaimedWorkflow) : Rpc Response := do
  let _ ← (sql (.completePendingSleeps item.runId)).attempt
  let _ ← (StepRepository.recordLifecycleEvent cfg.payloadMaxSizeBytes cfg.utf8 item.runId
    .workflowStarted none).attempt
  pure (.pollTask (cfg.uuidText item.runId) item.workflowType (bytesToPayload (some item.input)))

/-- The loop of `poll_task`, which waits for a notification or the deadline
between two polls. -/
def pollLoop (cfg : Config) (req : PollTaskRequest) (types : List String) : Nat → Rpc Response
  | 0 => do
      match ← stmt (.pollWorkflow req.ns req.taskQueue req.workerId types
        cfg.worker.visibilityTimeoutSecs) with
      | some item => dispatch cfg item
      | none => pure (.pollTask "" "" [])
  | waits + 1 => do
      match ← stmt (.pollWorkflow req.ns req.taskQueue req.workerId types
        cfg.worker.visibilityTimeoutSecs) with
      | some item => dispatch cfg item
      | none => pollLoop cfg req types waits

/-- `poll_task`. -/
def pollTask (cfg : Config) (req : PollTaskRequest) (waits : Nat) : Rpc Response := do
  let workerId ← cfg.uuid req.workerId "Invalid worker_id"
  if req.workflowTypes.isEmpty then
    .fail (invalidArgumentError "workflow_types cannot be empty")
  else do
    requireNonEmpty req.ns "namespace"
    let found ← stmt (.findWorker workerId)
    let worker ← orFail found
      (preconditionFailedError "Worker not registered or offline. Call Register first.")
    if worker.ns ≠ req.ns ∨ worker.taskQueue ≠ req.taskQueue then
      .fail (preconditionFailedError
        "Worker not registered for the requested namespace/task_queue")
    else if worker.status = .offline then
      .fail (preconditionFailedError
        "Worker not registered or offline. Call Register first.")
    else if worker.status = .draining then
      .fail (preconditionFailedError "Worker is draining and not accepting new work")
    else
      let types := worker.workflowTypes.filter fun t => req.workflowTypes.contains t
      if types.isEmpty then
        .fail (preconditionFailedError "Worker is not registered for the requested workflow types")
      else pollLoop cfg req types waits

/-- `map_proto_step_kind`. -/
def mapProtoStepKind (kind : Int) : Except Status StepKind :=
  if kind = 1 then .ok .function
  else if kind = 2 then .ok .sleep
  else if kind = 3 then .ok .function
  else if kind = 4 then
    .error (invalidArgumentError "lifecycle steps are synthetic and cannot be created by workers")
  else .error (invalidArgumentError "step kind is required")

/-- The end of `begin_step`: a sleep that is over is completed. -/
def finishSleep (cfg : Config) (runId : Uuid) (stepName : String) (stepKind : StepKind)
    (result : BeginStepResult) : Rpc Unit :=
  if stepKind = .sleep ∧ result.shouldExecute = false then
    call (StepRepository.complete cfg.payloadMaxSizeBytes runId stepName [])
  else pure ()

/-- `begin_step`. -/
def beginStep (cfg : Config) (req : BeginStepRequest) : Rpc Response := do
  let runId ← cfg.uuid req.runId "Invalid run_id"
  let _ ← validateWorkflowAction cfg runId
  let workflowRetryPolicy ← stmt (.getRetryPolicy runId)
  let stepKind ← .ofExcept (mapProtoStepKind req.kind)
  let result ← call (StepRepository.begin cfg.payloadMaxSizeBytes
    { runId := runId
      stepId := req.stepName
      stepKind := stepKind
      input := payloadToOptionalBytes req.input
      retryPolicy := mergeProtoPolicy req.retryPolicy workflowRetryPolicy })
  finishSleep cfg runId req.stepName stepKind result
  pure (.beginStep req.stepName result.shouldExecute (bytesToPayload result.cachedOutput))

/-- `map_step_kind`. -/
def mapStepKind : StepKind → ProtoStepKind
  | .function => .function
  | .sleep => .sleep
  | .workflowStarted => .lifecycle
  | .workflowCompleted => .lifecycle
  | .workflowFailed => .lifecycle
  | .workflowCancelled => .lifecycle

/-- `step_to_proto`. -/
def stepToProto (cfg : Config) (s : StepRow) : Step :=
  { stepId := s.stepId
    runId := cfg.uuidText s.runId
    ns := s.ns
    kind := mapStepKind s.stepKind
    status := s.status
    attemptNumber := s.attemptNumber
    input := bytesToPayload s.input
    output := bytesToPayload s.output
    error := s.error.map fun message => errDetail .unspecified message false 0 "" ""
    createdAt := s.createdAt
    startedAt := s.startedAt
    finishedAt := s.finishedAt }

/-- `complete_step`. -/
def completeStep (cfg : Config) (req : CompleteStepRequest) : Rpc Response := do
  let runId ← cfg.uuid req.runId "Invalid run_id"
  let ns ← validateWorkflowAction cfg runId
  let output := (payloadToOptionalBytes req.output).getD []
  call (StepRepository.complete cfg.payloadMaxSizeBytes runId req.stepId output)
  let rows ← stmt (.listSteps runId ns req.stepId 1)
  let step ← orFail (rows.take 1).getLast? (notFoundError "Step not found" "step" req.stepId)
  pure (.completeStep (stepToProto cfg step))

/-- `error.unwrap_or_else(..)`. -/
def errorDetail (error : Option ErrorDetail) : ErrorDetail :=
  error.getD (errDetail .unspecified "" false 0 "" "")

/-- The parameters `fail_step` hands to the store. -/
def failStepParams (runId : Uuid) (req : FailStepRequest) : FailStepParams :=
  let detail := errorDetail req.error
  { runId := runId
    stepId := req.stepId
    error := detail.message
    nonRetryable := detail.nonRetryable
    retryAfterMs := if detail.retryAfterMs > 0 then some detail.retryAfterMs else none }

/-- The end of `fail_step`: the run waits for its retry. -/
def scheduleRetry (runId : Uuid) : Option Nat → Rpc Unit
  | some delayMs => call (WorkflowRepository.scheduleRetry runId delayMs)
  | none => pure ()

/-- `fail_step`. -/
def failStep (cfg : Config) (req : FailStepRequest) : Rpc Response := do
  let runId ← cfg.uuid req.runId "Invalid run_id"
  requireNonEmpty req.stepId "step_id"
  let result ← call (StepRepository.fail (failStepParams runId req))
  scheduleRetry runId result.scheduleWorkflowRetryMs
  pure (.failStep result.scheduledRetry)

/-- `complete_workflow`. -/
def completeWorkflow (cfg : Config) (req : CompleteWorkflowRequest) : Rpc Response := do
  let runId ← cfg.uuid req.runId "Invalid run_id"
  let _ ← validateWorkflowAction cfg runId
  let output := (payloadToOptionalBytes req.output).getD []
  call (WorkflowRepository.complete cfg.payloadMaxSizeBytes runId output)
  let _ ← (StepRepository.recordLifecycleEvent cfg.payloadMaxSizeBytes cfg.utf8 runId
    .workflowCompleted (some output)).attempt
  pure (.completeWorkflow .completed)

/-- `fail_workflow`. -/
def failWorkflow (cfg : Config) (req : FailWorkflowRequest) : Rpc Response := do
  let runId ← cfg.uuid req.runId "Invalid run_id"
  let _ ← validateWorkflowAction cfg runId
  let message := (errorDetail req.error).message
  call (WorkflowRepository.fail runId message)
  let _ ← (StepRepository.recordLifecycleEvent cfg.payloadMaxSizeBytes cfg.utf8 runId
    .workflowFailed (some (cfg.bytes message))).attempt
  pure (.failWorkflow .failed)

/-- The whole seconds of a duration that is not negative.  The duration is normalized
first, and its seconds end at the last `i64`. -/
def durationSecs (d : ProstDuration) : Option Nat :=
  let nanos := d.seconds * 1000000000 + d.nanos
  if nanos < 0 then none else some (min (nanos / 1000000000) (2 ^ 63 - 1)).toNat

/-- `sleep`. -/
def sleep (cfg : Config) (req : SleepRequest) : Rpc Response := do
  let runId ← cfg.uuid req.runId "Invalid run_id"
  let duration ← orFail req.duration (invalidArgumentError "duration is required")
  let secs ← orFail (durationSecs duration)
    (invalidArgumentError "duration must be non-negative")
  if secs = 0 then pure .sleep
  else do
    call (WorkflowRepository.scheduleSleep runId secs)
    pure .sleep

end WorkerService

end Kagzi
