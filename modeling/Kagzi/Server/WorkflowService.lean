import Kagzi.Server.Api

/-!
# The workflow service

The handlers of `workflow_service.rs` that change something, and `get_workflow`.
-/

namespace Kagzi

open Atomic

namespace WorkflowService

/-- `DEFAULT_VERSION`. -/
def defaultVersion : String := "1"

/-- `start_workflow`. -/
def startWorkflow (cfg : Config) (req : StartWorkflowRequest) : Rpc Response := do
  requireNonEmpty req.externalId "external_id"
  requireNonEmpty req.taskQueue "task_queue"
  requireNonEmpty req.workflowType "workflow_type"
  requireNonEmpty req.ns "namespace"
  call (NamespaceRepository.getOrCreate req.ns)
  let runId ← stmt .newUuid
  let params : CreateWorkflow :=
    { runId := runId
      externalId := req.externalId
      taskQueue := req.taskQueue
      workflowType := req.workflowType
      input := payloadToBytes req.input
      ns := req.ns
      version := if req.version = "" then defaultVersion else req.version
      retryPolicy := mergeProtoPolicy req.retryPolicy none
      cronExpr := none
      scheduleId := none }
  match ← (WorkflowRepository.create cfg.payloadMaxSizeBytes params).attempt with
  | .ok id => do
      let _ ← (sql (.notify req.ns req.taskQueue)).attempt
      pure (.startWorkflow (cfg.uuidText id) false)
  | .error e =>
      if e.isUniqueViolation then do
        let existing ← stmt (.findActiveByExternalId req.ns req.externalId)
        let existingId ← orFail existing (mapStoreError e)
        pure (.startWorkflow (cfg.uuidText existingId) true)
      else .fail (mapStoreError e)

/-- `workflow_to_proto`. -/
def workflowToProto (cfg : Config) (w : WorkflowRun) (createdAt : Int) : Workflow :=
  { runId := cfg.uuidText w.runId
    externalId := w.externalId
    ns := w.ns
    taskQueue := w.taskQueue
    workflowType := w.workflowType
    status := w.status
    input := bytesToPayload (some w.input)
    output := bytesToPayload w.output
    error := w.error.map fun message => errDetail .unspecified message false 0 "" ""
    attempts := w.attempts
    createdAt := createdAt
    startedAt := w.startedAt
    finishedAt := w.finishedAt
    wakeUpAt := w.availableAt
    workerId := w.lockedBy
    version := w.version.getD ""
    cronExpr := w.cronExpr
    scheduleId := w.scheduleId.map cfg.uuidText }

/-- `get_workflow`.  A run without a creation time gets the present one. -/
def getWorkflow (cfg : Config) (req : GetWorkflowRequest) : Rpc Response := do
  let runId ← cfg.uuid req.runId "Invalid run_id: must be a valid UUID"
  requireNonEmpty req.ns "namespace"
  match ← stmt (.findById runId req.ns) with
  | some w =>
      match w.createdAt with
      | some createdAt => pure (.getWorkflow (workflowToProto cfg w createdAt))
      | none => do
          let now ← stmt .utcNow
          pure (.getWorkflow (workflowToProto cfg w now))
  | none =>
      .fail (notFoundError ("Workflow not found: run_id=" ++ cfg.uuidText runId ++ ", namespace="
        ++ req.ns) "workflow" (cfg.uuidText runId))

/-- `cancel_workflow`. -/
def cancelWorkflow (cfg : Config) (req : CancelWorkflowRequest) : Rpc Response := do
  let runId ← cfg.uuid req.runId "Invalid run_id: must be a valid UUID"
  requireNonEmpty req.ns "namespace"
  if ← call (WorkflowRepository.cancel runId req.ns) then do
    let _ ← (StepRepository.recordLifecycleEvent cfg.payloadMaxSizeBytes cfg.utf8 runId
      .workflowCancelled none).attempt
    pure (.cancelWorkflow true .cancelled)
  else do
    let found ← stmt (.checkWorkflowState runId req.ns)
    if found.exists? then
      .fail (preconditionFailedError ("Cannot cancel workflow with status '"
        ++ ((found.status.map fun s => "Some(" ++ s.debug ++ ")").getD "None")
        ++ "'. Only PENDING, RUNNING, or SLEEPING workflows can be cancelled."))
    else
      .fail (notFoundError ("Workflow not found: run_id=" ++ cfg.uuidText runId ++ ", namespace="
        ++ req.ns) "workflow" (cfg.uuidText runId))

/-- `retry_workflow`. -/
def retryWorkflow (cfg : Config) (req : RetryWorkflowRequest) : Rpc Response := do
  let runId ← cfg.uuid req.runId "Invalid run_id: must be a valid UUID"
  requireNonEmpty req.ns "namespace"
  let found ← stmt (.findById runId req.ns)
  let workflow ← orFail found
    (notFoundError "Workflow not found" "workflow" (cfg.uuidText runId))
  if !workflow.status.isTerminal then pure (.retryWorkflow "" true)
  else do
    let newId ← stmt .newUuid
    let newRunId ← call (WorkflowRepository.create cfg.payloadMaxSizeBytes
      { runId := newId
        externalId := "retry-" ++ workflow.externalId
        taskQueue := workflow.taskQueue
        workflowType := workflow.workflowType
        input := workflow.input
        ns := req.ns
        version := workflow.version.getD ""
        retryPolicy := none
        cronExpr := none
        scheduleId := none })
    pure (.retryWorkflow (cfg.uuidText newRunId) false)

/-- `terminate_workflow`.  The namespace is only checked for being there. -/
def terminateWorkflow (cfg : Config) (req : TerminateWorkflowRequest) : Rpc Response := do
  let runId ← cfg.uuid req.runId "Invalid run_id: must be a valid UUID"
  requireNonEmpty req.ns "namespace"
  call (WorkflowRepository.fail runId req.reason)
  pure (.terminateWorkflow true .failed)

end WorkflowService

end Kagzi
