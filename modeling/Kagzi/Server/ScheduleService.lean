import Kagzi.Server.Api

/-!
# The schedule service

The handlers of `workflow_schedule_service.rs` that change something.  A
schedule is the template run it names: pause, resume, update and a repeated
create all read the row of the template, change some fields of what they read,
and write six columns back.
-/

namespace Kagzi

open Atomic

namespace ScheduleService

/-! ## Cron expressions -/

/-- `char::is_whitespace`. -/
def isWhitespace (c : Char) : Bool :=
  (9 ≤ c.toNat && c.toNat ≤ 13) || c.toNat = 32 || c.toNat = 0x85 || c.toNat = 0xA0 ||
    c.toNat = 0x1680 || (0x2000 ≤ c.toNat && c.toNat ≤ 0x200A) || c.toNat = 0x2028 ||
    c.toNat = 0x2029 || c.toNat = 0x202F || c.toNat = 0x205F || c.toNat = 0x3000

/-- The number of fields `split_whitespace` gives.  `inField` says whether the
character before was part of a field. -/
def countFields (inField : Bool) : List Char → Nat
  | [] => 0
  | c :: cs =>
      if isWhitespace c then countFields false cs
      else (if inField then 0 else 1) + countFields true cs

/-- `parse_cron_expr`. -/
def parseCronExpr (cfg : Config) (expr : String) : Except Status Recurrence :=
  let fields := countFields false expr.toList
  if fields = 0 then .error (invalidArgumentError "cron_expr cannot be empty")
  else if fields ≠ 6 then
    .error (invalidArgumentError
      ("Invalid cron format: expected 6 fields (second minute hour day month weekday), got "
        ++ toString fields ++ ". Example: '0 */5 * * * *' (every 5 minutes)"))
  else
    match cfg.cronSchedule expr with
    | .ok cron => .ok cron
    | .error e =>
        .error (invalidArgumentError ("Invalid cron expression: " ++ e
          ++ ". Use 6-field format: second minute hour day month weekday"))

/-- The first occurrence of a schedule after `now`. -/
def nextAfter (cron : Recurrence) (now : Int) : Except Status Int :=
  match cron.next now with
  | some next => .ok next
  | none => .error (invalidArgumentError "Cron expression has no future occurrences")

/-- `next_fire_from_now`. -/
def nextFireFromNow (cfg : Config) (expr : String) (now : Int) : Except Status Int :=
  (parseCronExpr cfg expr).bind fun cron => nextAfter cron now

/-! ## Answers -/

/-- `workflow_run_to_schedule_proto`. -/
def workflowRunToScheduleProto (cfg : Config) (w : WorkflowRun) : Except Status WorkflowSchedule :=
  match w.cronExpr, w.availableAt, w.createdAt with
  | none, _, _ => .error (invalidArgumentError "Workflow run is not a schedule template")
  | some _, none, _ => .error (invalidArgumentError "Schedule template has no next_fire_at")
  | some _, some _, none => .error (invalidArgumentError "Schedule template has no created_at")
  | some cronExpr, some nextFireAt, some createdAt =>
      .ok
        { scheduleId := cfg.uuidText w.runId
          ns := w.ns
          taskQueue := w.taskQueue
          workflowType := w.workflowType
          cronExpr := cronExpr
          input := bytesToPayload (some w.input)
          enabled := w.status = .scheduled
          maxCatchup := w.maxCatchup
          nextFireAt := nextFireAt
          lastFiredAt := w.lastFiredAt
          version := w.version.getD ""
          createdAt := createdAt }

/-- Answer with the schedule a template is. -/
def answer (cfg : Config) (w : WorkflowRun) : Rpc Response := do
  let schedule ← .ofExcept (workflowRunToScheduleProto cfg w)
  pure (.schedule schedule)

/-- The status of a template that is enabled or not. -/
def enabledStatus (enabled : Bool) : WorkflowStatus := if enabled then .scheduled else .paused

/-- Find the template a request names. -/
def find (runId : Uuid) (ns scheduleId : String) : Rpc WorkflowRun := do
  let found ← stmt (.findById runId ns)
  orFail found (notFoundError "Schedule not found" "schedule" scheduleId)

/-! ## Create -/

/-- What `create_workflow_schedule` writes over a template that exists. -/
def recreated (w : WorkflowRun) (cronExpr : String) (firstFire : Int) (maxCatchup : Int)
    (enabled : Bool) : WorkflowRun :=
  { w with
    cronExpr := some cronExpr
    availableAt := some firstFire
    maxCatchup := maxCatchup
    status := enabledStatus enabled }

/-- What `create_workflow_schedule` writes over the run it has just created. -/
def templated (w : WorkflowRun) (firstFire : Int) (maxCatchup : Int) (enabled : Bool) :
    WorkflowRun :=
  { w with
    status := enabledStatus enabled
    availableAt := some firstFire
    maxCatchup := maxCatchup }

/-- `create_workflow_schedule`. -/
def createWorkflowSchedule (cfg : Config) (req : CreateWorkflowScheduleRequest) :
    Rpc Response := do
  requireNonEmpty req.scheduleId "schedule_id"
  requireNonEmpty req.taskQueue "task_queue"
  requireNonEmpty req.workflowType "workflow_type"
  requireNonEmpty req.cronExpr "cron_expr"
  requireNonEmpty req.ns "namespace"
  call (NamespaceRepository.getOrCreate req.ns)
  let now ← stmt .utcNow
  let firstFire ← .ofExcept (nextFireFromNow cfg req.cronExpr now)
  let enabled := req.enabled.getD true
  let maxCatchup := req.maxCatchup.getD cfg.coordinator.defaultMaxCatchup
  let externalId := "schedule:" ++ req.scheduleId
  match ← stmt (.findActiveByExternalId req.ns externalId) with
  | some existingRunId => do
      let found ← stmt (.findById existingRunId req.ns)
      let existing ← orFail found (invalidArgumentError "Schedule not found after lookup")
      let written := recreated existing req.cronExpr firstFire maxCatchup enabled
      stmt (.updateWorkflow existingRunId written.toRunRow)
      answer cfg written
  | none => do
      let runId ← stmt .newUuid
      let _ ← call (WorkflowRepository.create cfg.payloadMaxSizeBytes
        { runId := runId
          externalId := externalId
          taskQueue := req.taskQueue
          workflowType := req.workflowType
          input := (payloadToOptionalBytes req.input).getD []
          ns := req.ns
          version := req.version.getD ""
          retryPolicy := none
          cronExpr := some req.cronExpr
          scheduleId := none })
      let found ← stmt (.findById runId req.ns)
      let template ← orFail found (invalidArgumentError "Failed to create schedule")
      let written := templated template firstFire maxCatchup enabled
      stmt (.updateWorkflow runId written.toRunRow)
      answer cfg written

/-! ## Update, pause and resume -/

/-- The cron expression of a template, or the error that it has none. -/
def cronOf (cfg : Config) (w : WorkflowRun) (message : String) : Except Status Recurrence :=
  match w.cronExpr with
  | some expr => parseCronExpr cfg expr
  | none => .error (invalidArgumentError message)

/-- Check the cron expression of an update request.  Nothing is done with it. -/
def checkCron (cfg : Config) : Option String → Rpc Unit
  | none => pure ()
  | some expr => do
      let cron ← .ofExcept (parseCronExpr cfg expr)
      let now ← stmt .utcNow
      let _ ← .ofExcept (nextAfter cron now)

/-- The write of `update_workflow_schedule`. -/
def setEnabled (cfg : Config) (runId : Uuid) (current : WorkflowRun) : Option Bool → Rpc Unit
  | some true => do
      let cron ← .ofExcept (cronOf cfg current "Cannot enable schedule without cron expression")
      let now ← stmt .utcNow
      let fire ← .ofExcept (nextAfter cron now)
      stmt (.updateWorkflow runId
        { current.toRunRow with status := .scheduled, availableAt := some fire })
  | some false => stmt (.updateWorkflow runId { current.toRunRow with status := .paused })
  | none => pure ()

/-- `update_workflow_schedule`.  Of the fields of the request only `enabled` has
an effect. -/
def updateWorkflowSchedule (cfg : Config) (req : UpdateWorkflowScheduleRequest) :
    Rpc Response := do
  let runId ← cfg.uuid req.scheduleId "Invalid schedule_id"
  requireNonEmpty req.ns "namespace"
  let current ← find runId req.ns req.scheduleId
  checkCron cfg req.cronExpr
  setEnabled cfg runId current req.enabled
  let schedule ← find runId req.ns (cfg.uuidText runId)
  answer cfg schedule

/-- `pause_workflow_schedule`. -/
def pauseWorkflowSchedule (cfg : Config) (req : ScheduleRequest) : Rpc Response := do
  let runId ← cfg.uuid req.scheduleId "Invalid schedule_id"
  requireNonEmpty req.ns "namespace"
  let schedule ← find runId req.ns req.scheduleId
  let written := { schedule with status := .paused }
  stmt (.updateWorkflow runId written.toRunRow)
  answer cfg written

/-- `resume_workflow_schedule`. -/
def resumeWorkflowSchedule (cfg : Config) (req : ScheduleRequest) : Rpc Response := do
  let runId ← cfg.uuid req.scheduleId "Invalid schedule_id"
  requireNonEmpty req.ns "namespace"
  let schedule ← find runId req.ns req.scheduleId
  let cron ← .ofExcept (cronOf cfg schedule "Cannot resume schedule without cron expression")
  let now ← stmt .utcNow
  let nextFire ← .ofExcept (nextAfter cron now)
  let written := { schedule with status := .scheduled, availableAt := some nextFire }
  stmt (.updateWorkflow runId written.toRunRow)
  answer cfg written

/-! ## Delete and trigger -/

/-- `delete_workflow_schedule`. -/
def deleteWorkflowSchedule (cfg : Config) (req : ScheduleRequest) : Rpc Response := do
  let runId ← cfg.uuid req.scheduleId "Invalid schedule_id"
  requireNonEmpty req.ns "namespace"
  let _ ← find runId req.ns req.scheduleId
  call (WorkflowRepository.delete runId)
  pure (.deleteWorkflowSchedule true)

/-- `trigger_workflow_schedule`. -/
def triggerWorkflowSchedule (cfg : Config) (req : ScheduleRequest) : Rpc Response := do
  let scheduleId ← cfg.uuid req.scheduleId "Invalid schedule_id"
  requireNonEmpty req.ns "namespace"
  let schedule ← find scheduleId req.ns req.scheduleId
  let runId ← stmt .newUuid
  let _ ← call (WorkflowRepository.create cfg.payloadMaxSizeBytes
    { runId := runId
      externalId := "schedule-" ++ cfg.uuidText scheduleId ++ "-" ++ cfg.uuidText runId
      taskQueue := schedule.taskQueue
      workflowType := schedule.workflowType
      input := schedule.input
      ns := req.ns
      version := schedule.version.getD ""
      retryPolicy := none
      cronExpr := none
      scheduleId := some scheduleId })
  pure (.triggerWorkflowSchedule (cfg.uuidText runId))

end ScheduleService

/-! ## Namespaces

`enable_namespace` and `disable_namespace` of `namespace_service.rs`. -/

namespace NamespaceService

/-- Set the flag of a namespace and answer with the row read afterwards. -/
def setEnabled (ns : String) (set : String → Store Bool) : Rpc Response := do
  requireNonEmpty ns "namespace"
  let _ ← call (set ns)
  let found ← stmt (.findNamespace ns)
  let row ← orFail found (notFoundError "Namespace not found" "namespace" ns)
  pure (.namespace row.enabled)

/-- `enable_namespace`. -/
def enableNamespace (ns : String) : Rpc Response := setEnabled ns NamespaceRepository.enable

/-- `disable_namespace`. -/
def disableNamespace (ns : String) : Rpc Response := setEnabled ns NamespaceRepository.disable

end NamespaceService

end Kagzi
