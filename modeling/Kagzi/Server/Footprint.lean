import Kagzi.Server.CoordinatorRule

/-!
# What a request may do

`Request.may cfg req q` bounds the statements that the handler of `req` can run,
whatever the store answers: a statement that changes a run comes from a request
of the right kind, with the run, the worker and the settings that the request
and the configuration name.  `handle_uses` proves the bound for every handler.
-/

namespace Kagzi

open Atomic

/-- The request names this run. -/
def Request.target (cfg : Config) : Request → Option Uuid
  | .getWorkflow req => cfg.parseUuid req.runId
  | .cancelWorkflow req => cfg.parseUuid req.runId
  | .retryWorkflow req => cfg.parseUuid req.runId
  | .terminateWorkflow req => cfg.parseUuid req.runId
  | .beginStep req => cfg.parseUuid req.runId
  | .completeStep req => cfg.parseUuid req.runId
  | .failStep req => cfg.parseUuid req.runId
  | .completeWorkflow req => cfg.parseUuid req.runId
  | .failWorkflow req => cfg.parseUuid req.runId
  | .sleep req => cfg.parseUuid req.runId
  | .updateWorkflowSchedule req => cfg.parseUuid req.scheduleId
  | .deleteWorkflowSchedule req => cfg.parseUuid req.scheduleId
  | .triggerWorkflowSchedule req => cfg.parseUuid req.scheduleId
  | .pauseWorkflowSchedule req => cfg.parseUuid req.scheduleId
  | .resumeWorkflowSchedule req => cfg.parseUuid req.scheduleId
  | _ => none

/-- The request writes the row of a schedule template. -/
def Request.editsTemplate : Request → Bool
  | .createWorkflowSchedule _ => true
  | .updateWorkflowSchedule _ => true
  | .pauseWorkflowSchedule _ => true
  | .resumeWorkflowSchedule _ => true
  | _ => false

/-- The request creates, changes or deletes a schedule. -/
def Request.managesSchedules (req : Request) : Bool :=
  match req with
  | .deleteWorkflowSchedule _ => true
  | _ => req.editsTemplate

theorem managesSchedules_of_editsTemplate {req : Request} (h : req.editsTemplate = true) :
    req.managesSchedules = true := by
  unfold Request.managesSchedules
  split
  · rfl
  · exact h

/-- The statements a request can run that change a run.  Of the statements that
change none, any is allowed. -/
def Request.may (cfg : Config) (req : Request) : Stmt → Prop
  | .createWorkflow params =>
      params.scheduleId = none ∨ ∃ r, req = .triggerWorkflowSchedule r
  | .cancelRunning runId _ => (∃ r, req = .cancelWorkflow r) ∧ req.target cfg = some runId
  | .cancelWaiting runId _ => (∃ r, req = .cancelWorkflow r) ∧ req.target cfg = some runId
  | .completeRun runId _ => (∃ r, req = .completeWorkflow r) ∧ req.target cfg = some runId
  | .setOutput runId _ => (∃ r, req = .completeWorkflow r) ∧ req.target cfg = some runId
  | .setFailed runId _ =>
      ((∃ r, req = .failWorkflow r) ∨ ∃ r, req = .terminateWorkflow r) ∧
        req.target cfg = some runId
  | .scheduleSleep runId _ => (∃ r, req = .sleep r) ∧ req.target cfg = some runId
  | .scheduleRetry runId _ => (∃ r, req = .failStep r) ∧ req.target cfg = some runId
  | .pollWorkflow _ _ workerId _ secs =>
      (∃ r waits, req = .pollTask r waits ∧ r.workerId = workerId) ∧
        secs = cfg.worker.visibilityTimeoutSecs
  | .extendVisibility workerId secs =>
      (∃ r, req = .heartbeat r ∧ r.workerId = workerId) ∧
        secs = cfg.worker.heartbeatExtensionSecs
  | .findDueSchedules .. => ∃ ticks, req = .coordinator ticks
  | .createScheduleInstance .. => ∃ ticks, req = .coordinator ticks
  | .updateNextFire .. => ∃ ticks, req = .coordinator ticks
  | .updateWorkflow runId workflow =>
      req.editsTemplate = true ∧ workflow.status.isScheduleTemplate = true ∧
        ((∃ r, req = .createWorkflowSchedule r) ∨ req.target cfg = some runId)
  | .deletePayload runId => (∃ r, req = .deleteWorkflowSchedule r) ∧ req.target cfg = some runId
  | .deleteRun runId => (∃ r, req = .deleteWorkflowSchedule r) ∧ req.target cfg = some runId
  | _ => True

/-! ## What a request may do to steps -/

/-- The rows of steps that a request can insert.  Only a message of an execution
inserts a step of any kind. -/
def Request.mayInsert (cfg : Config) (req : Request) (step : NewStep) : Prop :=
  match req with
  | .beginStep _ => req.target cfg = some step.runId
  | .completeStep _ => req.target cfg = some step.runId
  | .failStep _ => req.target cfg = some step.runId
  | .pollTask _ _ => step.stepKind = .workflowStarted
  | .cancelWorkflow _ => req.target cfg = some step.runId ∧ step.stepKind = .workflowCancelled
  | .completeWorkflow _ => req.target cfg = some step.runId ∧ step.stepKind = .workflowCompleted
  | .failWorkflow _ => req.target cfg = some step.runId ∧ step.stepKind = .workflowFailed
  | _ => False

/-- The request records an event in the history of a run. -/
def Request.recordsEvent : Request → Bool
  | .pollTask _ _ => true
  | .cancelWorkflow _ => true
  | .completeWorkflow _ => true
  | .failWorkflow _ => true
  | _ => false

/-- The statements a request can run that change a step.  Of the statements that
change none, any is allowed. -/
def Request.mayStep (cfg : Config) (req : Request) : Stmt → Prop
  | .supersede step => req.mayInsert cfg step
  | .insertStep step => req.mayInsert cfg step
  | .completeRunningStep runId _ _ =>
      ((∃ r, req = .completeStep r) ∨ ∃ r, req = .beginStep r) ∧ req.target cfg = some runId
  | .failRunningStep runId _ _ => (∃ r, req = .failStep r) ∧ req.target cfg = some runId
  | .failLatestStep runId _ _ => (∃ r, req = .failStep r) ∧ req.target cfg = some runId
  | .completePendingSleeps _ => ∃ r waits, req = .pollTask r waits
  | .recordLatestStep _ stepId _ _ _ =>
      req.recordsEvent = true ∧ ∃ kind, stepId = StepRepository.lifecycleStepId kind
  | _ => True

/-- The statements a request can run. -/
def Request.footprint (cfg : Config) (req : Request) (q : Stmt) : Prop :=
  req.may cfg q ∧ req.mayStep cfg q

/-! ## Parts of handlers -/

section Parts
variable {allowed : Stmt → Prop} {α β : Type} {cfg : Config}

theorem uses_call {f : Store α} (h : f.Uses allowed) : (call f).Uses allowed := h.mapError

theorem uses_stmt {q : Stmt} (h : allowed q) : (stmt q).Uses allowed := uses_call (uses_sql h)

theorem uses_orFail (a : Option α) (status : Status) : (orFail a status).Uses allowed := by
  cases a <;> trivial

theorem uses_requireNonEmpty (value field : String) :
    (requireNonEmpty value field).Uses allowed := by
  unfold requireNonEmpty
  split <;> trivial

theorem uses_requireNonEmpty_bind {value field : String} {f : Unit → Rpc β}
    (h : (f ()).Uses allowed) : (requireNonEmpty value field >>= f).Uses allowed :=
  (uses_requireNonEmpty value field).bind fun _ => h

theorem uses_uuid_bind {text message : String} {f : Uuid → Rpc β}
    (h : ∀ runId, cfg.parseUuid text = some runId → (f runId).Uses allowed) :
    (cfg.uuid text message >>= f).Uses allowed := by
  unfold Config.uuid orFail
  cases hp : cfg.parseUuid text with
  | none => trivial
  | some runId => exact h runId hp

end Parts

/-! ## The repositories -/

/-- The statement only reads steps, or asks for an identifier or a number. -/
def Stmt.readsSteps : Stmt → Bool
  | .latestStep _ _ => true
  | .latestStepKind _ _ => true
  | .getRetryInfo _ _ => true
  | .listSteps _ _ _ _ => true
  | .newUuid => true
  | .random => true
  | _ => false

theorem footprint_readsSteps {cfg : Config} {req : Request} {q : Stmt} (h : q.readsSteps = true) :
    req.footprint cfg q := by
  cases q with
  | latestStep _ _ => exact ⟨trivial, trivial⟩
  | latestStepKind _ _ => exact ⟨trivial, trivial⟩
  | getRetryInfo _ _ => exact ⟨trivial, trivial⟩
  | listSteps _ _ _ _ => exact ⟨trivial, trivial⟩
  | newUuid => exact ⟨trivial, trivial⟩
  | random => exact ⟨trivial, trivial⟩
  | _ => cases h

section Repositories
variable {allowed : Stmt → Prop}

/-- The step may be inserted. -/
def AllowsInsert (allowed : Stmt → Prop) (step : NewStep) : Prop :=
  allowed (.supersede step) ∧ allowed (.insertStep step)

theorem allowsInsert_footprint {cfg : Config} {req : Request} {step : NewStep}
    (h : req.mayInsert cfg step) : AllowsInsert (req.footprint cfg) step :=
  ⟨⟨trivial, h⟩, trivial, h⟩

theorem replaceLatest_uses {step : NewStep} (h : AllowsInsert allowed step) :
    (StepRepository.replaceLatest step).Uses allowed := by
  refine (uses_sql h.1).bind fun hit => ?_
  cases hit with
  | true => trivial
  | false => exact uses_sql h.2

variable (hread : ∀ {q : Stmt}, q.readsSteps = true → allowed q)
include hread

theorem latestStepKindStrict_uses (runId : Uuid) (stepId : String) :
    (StepRepository.latestStepKindStrict runId stepId).Uses allowed := by
  refine (uses_sql (hread rfl)).bind fun kind => ?_
  cases kind <;> trivial

theorem begin_uses (max : Nat) {params : BeginStepParams}
    (hinsert : ∀ id, AllowsInsert allowed (StepRepository.beginRow params id)) :
    (StepRepository.begin max params).Uses allowed := by
  refine (Prog.uses_ofExcept _).bind fun _ => ?_
  refine (uses_sql (hread rfl)).bind fun found => ?_
  split
  next => trivial
  next =>
    refine (uses_sql (hread rfl)).bind fun attemptId => ?_
    exact (replaceLatest_uses (hinsert attemptId)).bind fun _ => trivial

theorem complete_uses (max : Nat) {runId : Uuid} {stepId : String} {output : Bytes}
    (hupdate : allowed (.completeRunningStep runId stepId output))
    (hinsert : ∀ step, step.runId = runId → step.stepId = stepId → AllowsInsert allowed step) :
    (StepRepository.complete max runId stepId output).Uses allowed := by
  refine (Prog.uses_ofExcept _).bind fun _ => ?_
  refine (latestStepKindStrict_uses hread runId stepId).bind fun stepKind => ?_
  refine (uses_sql hupdate).bind fun hit => ?_
  cases hit with
  | true => trivial
  | false =>
      refine (uses_sql (hread rfl)).bind fun found => ?_
      split
      next => trivial
      next => exact (uses_sql (hread rfl)).bind fun _ => replaceLatest_uses (hinsert _ rfl rfl)

theorem failForGood_uses {params : FailStepParams}
    (hupdate : allowed (.failRunningStep params.runId params.stepId params.error))
    (hinsert : ∀ step, step.runId = params.runId → step.stepId = params.stepId →
      AllowsInsert allowed step) :
    (StepRepository.failForGood params).Uses allowed := by
  refine (latestStepKindStrict_uses hread _ _).bind fun stepKind => ?_
  refine (uses_sql hupdate).bind fun hit => ?_
  cases hit with
  | true => trivial
  | false =>
      refine (uses_sql (hread rfl)).bind fun attemptId => ?_
      exact (replaceLatest_uses (hinsert _ rfl rfl)).bind fun _ => trivial

theorem fail_uses {params : FailStepParams}
    (hupdate : allowed (.failRunningStep params.runId params.stepId params.error))
    (hlatest : allowed (.failLatestStep params.runId params.stepId params.error))
    (hinsert : ∀ step, step.runId = params.runId → step.stepId = params.stepId →
      AllowsInsert allowed step) :
    (StepRepository.fail params).Uses allowed := by
  refine (uses_sql (hread rfl)).bind fun info => ?_
  cases info with
  | none => exact failForGood_uses hread hupdate hinsert
  | some info =>
      dsimp only
      split
      next =>
        refine Prog.Uses.bind ?_ fun delayMs => (uses_sql hlatest).bind fun _ => trivial
        unfold StepRepository.retryDelayMs
        split
        next => trivial
        next => exact (uses_sql (hread rfl)).bind fun _ => trivial
      next => exact failForGood_uses hread hupdate hinsert

theorem recordLifecycleEvent_uses (max : Nat) (utf8 : Bytes → Option String) {runId : Uuid}
    {stepKind : StepKind} (output : Option Bytes)
    (hupdate : ∀ status output error, status ≠ .running → allowed
      (.recordLatestStep runId (StepRepository.lifecycleStepId stepKind) status output error))
    (hinsert : ∀ step, step.runId = runId →
      step.stepId = StepRepository.lifecycleStepId stepKind → step.stepKind = stepKind →
        AllowsInsert allowed step) :
    (StepRepository.recordLifecycleEvent max utf8 runId stepKind output).Uses allowed := by
  refine (Prog.uses_ofExcept _).bind fun _ => ?_
  refine (uses_sql (hupdate _ _ _ (by split <;> decide))).bind fun hit => ?_
  cases hit with
  | true => trivial
  | false =>
      exact (uses_sql (hread rfl)).bind fun _ => replaceLatest_uses (hinsert _ rfl rfl rfl)

end Repositories

/-! ## The handlers -/

section Handlers
variable (cfg : Config)

/-- A statement that changes no run is allowed to every request. -/
theorem getOrCreate_uses (req : Request) (ns : String) :
    (NamespaceRepository.getOrCreate ns).Uses (req.footprint cfg) := by
  refine (uses_sql ⟨trivial, trivial⟩).bind fun found => ?_
  cases found with
  | some _ => trivial
  | none => exact (uses_sql ⟨trivial, trivial⟩).bind fun now => uses_sql ⟨trivial, trivial⟩

theorem create_uses {req : Request} {params : CreateWorkflow}
    (h : params.scheduleId = none ∨ ∃ r, req = .triggerWorkflowSchedule r) (max : Nat) :
    (WorkflowRepository.create max params).Uses (req.footprint cfg) :=
  (Prog.uses_ofExcept _).bind fun _ => uses_sql ⟨h, trivial⟩

theorem recordEvent_uses {req : Request} {runId : Uuid} {stepKind : StepKind} {output : Option Bytes}
    (hrec : req.recordsEvent = true)
    (hinsert : ∀ step : NewStep, step.runId = runId → step.stepKind = stepKind →
      req.mayInsert cfg step) :
    (StepRepository.recordLifecycleEvent cfg.payloadMaxSizeBytes cfg.utf8 runId stepKind
      output).Uses (req.footprint cfg) :=
  recordLifecycleEvent_uses footprint_readsSteps _ _ _ (fun _ _ _ _ => ⟨trivial, hrec, _, rfl⟩)
    fun step h _ h' => allowsInsert_footprint (hinsert step h h')

theorem startWorkflow_uses (req : StartWorkflowRequest) :
    (WorkflowService.startWorkflow cfg req).Uses ((Request.startWorkflow req).footprint cfg) := by
  refine uses_requireNonEmpty_bind (uses_requireNonEmpty_bind (uses_requireNonEmpty_bind
    (uses_requireNonEmpty_bind ?_)))
  refine (uses_call (getOrCreate_uses cfg _ _)).bind fun _ => (uses_stmt ⟨trivial, trivial⟩).bind fun runId => ?_
  refine Prog.Uses.bind (create_uses cfg (.inl rfl) _).attempt fun created => ?_
  cases created with
  | ok id => exact Prog.Uses.bind (uses_sql ⟨trivial, trivial⟩).attempt fun _ => trivial
  | error e =>
      dsimp only
      split
      next =>
        refine (uses_stmt ⟨trivial, trivial⟩).bind fun existing => ?_
        exact (uses_orFail _ _).bind fun _ => trivial
      next => trivial

theorem getWorkflow_uses (req : GetWorkflowRequest) :
    (WorkflowService.getWorkflow cfg req).Uses ((Request.getWorkflow req).footprint cfg) := by
  refine uses_uuid_bind fun runId _ => uses_requireNonEmpty_bind ?_
  refine (uses_stmt ⟨trivial, trivial⟩).bind fun found => ?_
  cases found with
  | none => trivial
  | some w =>
      dsimp only
      split
      next => trivial
      next => exact (uses_stmt ⟨trivial, trivial⟩).bind fun _ => trivial

theorem cancelWorkflow_uses (req : CancelWorkflowRequest) :
    (WorkflowService.cancelWorkflow cfg req).Uses ((Request.cancelWorkflow req).footprint cfg) := by
  refine uses_uuid_bind fun runId hid => uses_requireNonEmpty_bind ?_
  have hinsert : ∀ step : NewStep, step.runId = runId → step.stepKind = .workflowCancelled →
      (Request.cancelWorkflow req).mayInsert cfg step := fun _ h h' => ⟨hid.trans (congrArg some h.symm), h'⟩
  have hcancel : (WorkflowRepository.cancel runId req.ns).Uses
      ((Request.cancelWorkflow req).footprint cfg) := by
    refine (uses_sql ⟨⟨⟨req, rfl⟩, hid⟩, trivial⟩).bind fun hit => ?_
    cases hit with
    | true => trivial
    | false => exact uses_sql ⟨⟨⟨req, rfl⟩, hid⟩, trivial⟩
  refine (uses_call hcancel).bind fun cancelled => ?_
  cases cancelled with
  | true =>
      exact Prog.Uses.bind (recordEvent_uses cfg rfl hinsert).attempt
        fun _ => trivial
  | false =>
      refine (uses_stmt ⟨trivial, trivial⟩).bind fun found => ?_
      split <;> trivial

theorem retryWorkflow_uses (req : RetryWorkflowRequest) :
    (WorkflowService.retryWorkflow cfg req).Uses ((Request.retryWorkflow req).footprint cfg) := by
  refine uses_uuid_bind fun runId _ => uses_requireNonEmpty_bind ?_
  refine (uses_stmt ⟨trivial, trivial⟩).bind fun found => (uses_orFail _ _).bind fun workflow => ?_
  split
  next => trivial
  next =>
    refine (uses_stmt ⟨trivial, trivial⟩).bind fun newId => ?_
    exact (uses_call (create_uses cfg (.inl rfl) _)).bind fun _ => trivial

theorem terminateWorkflow_uses (req : TerminateWorkflowRequest) :
    (WorkflowService.terminateWorkflow cfg req).Uses
      ((Request.terminateWorkflow req).footprint cfg) := by
  refine uses_uuid_bind fun runId hid => uses_requireNonEmpty_bind ?_
  refine (uses_call ?_).bind fun _ => trivial
  exact (uses_sql ⟨⟨.inr ⟨req, rfl⟩, hid⟩, trivial⟩).bind fun _ => trivial

theorem validateWorkflowAction_uses (req : Request) (runId : Uuid) :
    (WorkerService.validateWorkflowAction cfg runId).Uses (req.footprint cfg) := by
  refine (uses_stmt ⟨trivial, trivial⟩).bind fun found => (uses_orFail _ _).bind fun ns => ?_
  refine (uses_stmt ⟨trivial, trivial⟩).bind fun check => ?_
  split
  next => trivial
  next =>
    split
    next => split <;> trivial
    next => trivial

theorem register_uses (req : RegisterRequest) :
    (WorkerService.register cfg req).Uses ((Request.register req).footprint cfg) := by
  unfold WorkerService.register
  split
  next => trivial
  next =>
    exact uses_requireNonEmpty_bind ((uses_stmt ⟨trivial, trivial⟩).bind fun _ => trivial)

theorem heartbeat_uses (req : HeartbeatRequest) :
    (WorkerService.heartbeat cfg req).Uses ((Request.heartbeat req).footprint cfg) := by
  refine uses_uuid_bind fun workerId _ => (uses_stmt ⟨trivial, trivial⟩).bind fun hit => ?_
  cases hit with
  | true =>
      refine Prog.Uses.bind (uses_stmt ⟨⟨⟨req, rfl, rfl⟩, rfl⟩, trivial⟩) fun _ => ?_
      exact (uses_stmt ⟨trivial, trivial⟩).bind fun _ => trivial
  | false => trivial

theorem deregister_uses (req : DeregisterRequest) :
    (WorkerService.deregister cfg req).Uses ((Request.deregister req).footprint cfg) := by
  refine uses_uuid_bind fun workerId _ => (uses_stmt ⟨trivial, trivial⟩).bind fun found => ?_
  refine (uses_orFail _ _).bind fun worker => Prog.Uses.bind ?_ fun _ => trivial
  unfold WorkerService.leave
  split <;> exact uses_stmt ⟨trivial, trivial⟩

theorem drainWorker_uses (workerText : String) :
    (WorkerService.drainWorker cfg workerText).Uses ((Request.drainWorker workerText).footprint cfg) := by
  refine uses_uuid_bind fun workerId _ => (uses_stmt ⟨trivial, trivial⟩).bind fun found => ?_
  exact (uses_orFail _ _).bind fun worker => (uses_stmt ⟨trivial, trivial⟩).bind fun _ => trivial

theorem dispatch_uses (req : PollTaskRequest) (waits : Nat) (item : ClaimedWorkflow) :
    (WorkerService.dispatch cfg item).Uses ((Request.pollTask req waits).footprint cfg) := by
  refine Prog.Uses.bind (uses_sql ⟨trivial, req, waits, rfl⟩).attempt fun _ => ?_
  have hinsert : ∀ step : NewStep, step.runId = item.runId → step.stepKind = .workflowStarted →
      (Request.pollTask req waits).mayInsert cfg step := fun _ _ h => h
  exact Prog.Uses.bind (recordEvent_uses cfg rfl hinsert).attempt fun _ => trivial

theorem pollLoop_uses (req : PollTaskRequest) (types : List String) (waits n : Nat) :
    (WorkerService.pollLoop cfg req types n).Uses ((Request.pollTask req waits).footprint cfg) := by
  induction n with
  | zero =>
      refine Prog.Uses.bind (uses_stmt ⟨⟨⟨req, waits, rfl, rfl⟩, rfl⟩, trivial⟩) fun found => ?_
      cases found with
      | some item => exact dispatch_uses cfg req waits item
      | none => trivial
  | succ n ih =>
      refine Prog.Uses.bind (uses_stmt ⟨⟨⟨req, waits, rfl, rfl⟩, rfl⟩, trivial⟩) fun found => ?_
      cases found with
      | some item => exact dispatch_uses cfg req waits item
      | none => exact ih

theorem pollTask_uses (req : PollTaskRequest) (waits : Nat) :
    (WorkerService.pollTask cfg req waits).Uses ((Request.pollTask req waits).footprint cfg) := by
  refine uses_uuid_bind fun workerId _ => ?_
  split
  next => trivial
  next =>
    refine uses_requireNonEmpty_bind ((uses_stmt ⟨trivial, trivial⟩).bind fun found => ?_)
    refine (uses_orFail _ _).bind fun worker => ?_
    split
    next => trivial
    next =>
      split
      next => trivial
      next =>
        split
        next => trivial
        next =>
          dsimp only
          split
          next => trivial
          next => exact pollLoop_uses cfg req _ waits waits

theorem beginStep_uses (req : BeginStepRequest) :
    (WorkerService.beginStep cfg req).Uses ((Request.beginStep req).footprint cfg) := by
  refine uses_uuid_bind fun runId hid => (validateWorkflowAction_uses cfg _ runId).bind fun _ => ?_
  have hinsert : ∀ step : NewStep, step.runId = runId → (Request.beginStep req).mayInsert cfg step :=
    fun _ h => hid.trans (congrArg some h.symm)
  refine (uses_stmt ⟨trivial, trivial⟩).bind fun policy => (Prog.uses_ofExcept _).bind fun stepKind => ?_
  refine (uses_call (begin_uses footprint_readsSteps _ fun _ => allowsInsert_footprint (hinsert _ rfl))).bind
    fun result => Prog.Uses.bind ?_ fun _ => trivial
  unfold WorkerService.finishSleep
  split
  next =>
    exact uses_call (complete_uses footprint_readsSteps _ ⟨trivial, .inr ⟨req, rfl⟩, hid⟩
      fun step h _ => allowsInsert_footprint (hinsert step h))
  next => trivial

theorem completeStep_uses (req : CompleteStepRequest) :
    (WorkerService.completeStep cfg req).Uses ((Request.completeStep req).footprint cfg) := by
  refine uses_uuid_bind fun runId hid => (validateWorkflowAction_uses cfg _ runId).bind fun ns => ?_
  have hinsert : ∀ step : NewStep, step.runId = runId → (Request.completeStep req).mayInsert cfg step :=
    fun _ h => hid.trans (congrArg some h.symm)
  refine (uses_call (complete_uses footprint_readsSteps _ ⟨trivial, .inl ⟨req, rfl⟩, hid⟩
    fun step h _ => allowsInsert_footprint (hinsert step h))).bind fun _ => ?_
  exact (uses_stmt ⟨trivial, trivial⟩).bind fun rows => (uses_orFail _ _).bind fun _ => trivial

theorem failStep_uses (req : FailStepRequest) :
    (WorkerService.failStep cfg req).Uses ((Request.failStep req).footprint cfg) := by
  refine uses_uuid_bind fun runId hid => uses_requireNonEmpty_bind ?_
  have hinsert : ∀ step : NewStep, step.runId = runId → (Request.failStep req).mayInsert cfg step :=
    fun _ h => hid.trans (congrArg some h.symm)
  have hfail : (StepRepository.fail (WorkerService.failStepParams runId req)).Uses
      ((Request.failStep req).footprint cfg) :=
    fail_uses footprint_readsSteps ⟨trivial, ⟨req, rfl⟩, hid⟩ ⟨trivial, ⟨req, rfl⟩, hid⟩
      fun step h _ => allowsInsert_footprint (hinsert step h)
  refine (uses_call hfail).bind fun result => ?_
  refine Prog.Uses.bind ?_ fun _ => trivial
  unfold WorkerService.scheduleRetry
  split
  next =>
    exact uses_call (Prog.Uses.bind (uses_sql ⟨⟨⟨req, rfl⟩, hid⟩, trivial⟩) fun _ => trivial)
  next => trivial

theorem completeWorkflow_uses (req : CompleteWorkflowRequest) :
    (WorkerService.completeWorkflow cfg req).Uses ((Request.completeWorkflow req).footprint cfg) := by
  refine uses_uuid_bind fun runId hid => ?_
  have hinsert : ∀ step : NewStep, step.runId = runId → step.stepKind = .workflowCompleted →
      (Request.completeWorkflow req).mayInsert cfg step := fun _ h h' => ⟨hid.trans (congrArg some h.symm), h'⟩
  refine (validateWorkflowAction_uses cfg _ runId).bind fun _ => Prog.Uses.bind (uses_call ?_) ?_
  · refine (Prog.uses_ofExcept _).bind fun _ => ?_
    refine Prog.Uses.bind (uses_sql ⟨⟨⟨req, rfl⟩, hid⟩, trivial⟩) fun hit => ?_
    split
    next => trivial
    next => exact uses_sql ⟨⟨⟨req, rfl⟩, hid⟩, trivial⟩
  · intro _
    exact Prog.Uses.bind (recordEvent_uses cfg rfl hinsert).attempt
      fun _ => trivial

theorem failWorkflow_uses (req : FailWorkflowRequest) :
    (WorkerService.failWorkflow cfg req).Uses ((Request.failWorkflow req).footprint cfg) := by
  refine uses_uuid_bind fun runId hid => ?_
  have hinsert : ∀ step : NewStep, step.runId = runId → step.stepKind = .workflowFailed →
      (Request.failWorkflow req).mayInsert cfg step := fun _ h h' => ⟨hid.trans (congrArg some h.symm), h'⟩
  refine (validateWorkflowAction_uses cfg _ runId).bind fun _ => Prog.Uses.bind (uses_call ?_) ?_
  · exact Prog.Uses.bind (uses_sql ⟨⟨.inl ⟨req, rfl⟩, hid⟩, trivial⟩) fun _ => trivial
  · intro _
    exact Prog.Uses.bind (recordEvent_uses cfg rfl hinsert).attempt
      fun _ => trivial

theorem sleep_uses (req : SleepRequest) :
    (WorkerService.sleep cfg req).Uses ((Request.sleep req).footprint cfg) := by
  refine uses_uuid_bind fun runId hid => ?_
  refine (uses_orFail _ _).bind fun duration => (uses_orFail _ _).bind fun secs => ?_
  split
  next => trivial
  next =>
    refine (uses_call ?_).bind fun _ => trivial
    exact Prog.Uses.bind (uses_sql ⟨⟨⟨req, rfl⟩, hid⟩, trivial⟩) fun _ => trivial

theorem find_uses (req : Request) (runId : Uuid) (ns scheduleId : String) :
    (ScheduleService.find runId ns scheduleId).Uses (req.footprint cfg) :=
  (uses_stmt ⟨trivial, trivial⟩).bind fun _ => uses_orFail _ _

theorem answer_uses (req : Request) (w : WorkflowRun) :
    (ScheduleService.answer cfg w).Uses (req.footprint cfg) :=
  (Prog.uses_ofExcept _).bind fun _ => trivial

theorem enabledStatus_isScheduleTemplate (enabled : Bool) :
    (ScheduleService.enabledStatus enabled).isScheduleTemplate = true := by
  cases enabled <;> rfl

theorem createWorkflowSchedule_uses (req : CreateWorkflowScheduleRequest) :
    (ScheduleService.createWorkflowSchedule cfg req).Uses
      ((Request.createWorkflowSchedule req).footprint cfg) := by
  refine uses_requireNonEmpty_bind (uses_requireNonEmpty_bind (uses_requireNonEmpty_bind
    (uses_requireNonEmpty_bind (uses_requireNonEmpty_bind ?_))))
  refine (uses_call (getOrCreate_uses cfg _ _)).bind fun _ => (uses_stmt ⟨trivial, trivial⟩).bind fun now => ?_
  refine (Prog.uses_ofExcept _).bind fun firstFire => (uses_stmt ⟨trivial, trivial⟩).bind fun existing => ?_
  cases existing with
  | some existingRunId =>
      refine (uses_stmt ⟨trivial, trivial⟩).bind fun found => (uses_orFail _ _).bind fun existing => ?_
      exact Prog.Uses.bind
        (uses_stmt ⟨⟨rfl, enabledStatus_isScheduleTemplate _, .inl ⟨req, rfl⟩⟩, trivial⟩)
        fun _ => answer_uses cfg _ _
  | none =>
      refine (uses_stmt ⟨trivial, trivial⟩).bind fun runId => ?_
      refine (uses_call (create_uses cfg (.inl rfl) _)).bind fun _ => ?_
      refine (uses_stmt ⟨trivial, trivial⟩).bind fun found => (uses_orFail _ _).bind fun template => ?_
      exact Prog.Uses.bind
        (uses_stmt ⟨⟨rfl, enabledStatus_isScheduleTemplate _, .inl ⟨req, rfl⟩⟩, trivial⟩)
        fun _ => answer_uses cfg _ _

theorem checkCron_uses (req : Request) (cronExpr : Option String) :
    (ScheduleService.checkCron cfg cronExpr).Uses (req.footprint cfg) := by
  cases cronExpr with
  | none => trivial
  | some expr =>
      refine (Prog.uses_ofExcept _).bind fun cron => (uses_stmt ⟨trivial, trivial⟩).bind fun now => ?_
      exact (Prog.uses_ofExcept _).bind fun _ => trivial

theorem updateWorkflowSchedule_uses (req : UpdateWorkflowScheduleRequest) :
    (ScheduleService.updateWorkflowSchedule cfg req).Uses
      ((Request.updateWorkflowSchedule req).footprint cfg) := by
  refine uses_uuid_bind fun runId hid => uses_requireNonEmpty_bind ?_
  refine (find_uses cfg _ _ _ _).bind fun current => (checkCron_uses cfg _ _).bind fun _ => ?_
  refine Prog.Uses.bind ?_ fun _ => (find_uses cfg _ _ _ _).bind fun _ => answer_uses cfg _ _
  unfold ScheduleService.setEnabled
  split
  next =>
    refine (Prog.uses_ofExcept _).bind fun cron => (uses_stmt ⟨trivial, trivial⟩).bind fun now => ?_
    exact (Prog.uses_ofExcept _).bind fun fire => uses_stmt ⟨⟨rfl, rfl, .inr hid⟩, trivial⟩
  next => exact uses_stmt ⟨⟨rfl, rfl, .inr hid⟩, trivial⟩
  next => trivial

theorem pauseWorkflowSchedule_uses (req : ScheduleRequest) :
    (ScheduleService.pauseWorkflowSchedule cfg req).Uses
      ((Request.pauseWorkflowSchedule req).footprint cfg) := by
  refine uses_uuid_bind fun runId hid => uses_requireNonEmpty_bind ?_
  refine (find_uses cfg _ _ _ _).bind fun schedule => ?_
  exact Prog.Uses.bind (uses_stmt ⟨⟨rfl, rfl, .inr hid⟩, trivial⟩) fun _ => answer_uses cfg _ _

theorem resumeWorkflowSchedule_uses (req : ScheduleRequest) :
    (ScheduleService.resumeWorkflowSchedule cfg req).Uses
      ((Request.resumeWorkflowSchedule req).footprint cfg) := by
  refine uses_uuid_bind fun runId hid => uses_requireNonEmpty_bind ?_
  refine (find_uses cfg _ _ _ _).bind fun schedule => (Prog.uses_ofExcept _).bind fun cron => ?_
  refine (uses_stmt ⟨trivial, trivial⟩).bind fun now => (Prog.uses_ofExcept _).bind fun nextFire => ?_
  exact Prog.Uses.bind (uses_stmt ⟨⟨rfl, rfl, .inr hid⟩, trivial⟩) fun _ => answer_uses cfg _ _

theorem deleteWorkflowSchedule_uses (req : ScheduleRequest) :
    (ScheduleService.deleteWorkflowSchedule cfg req).Uses
      ((Request.deleteWorkflowSchedule req).footprint cfg) := by
  refine uses_uuid_bind fun runId hid => uses_requireNonEmpty_bind ?_
  refine (find_uses cfg _ _ _ _).bind fun _ => (uses_call ?_).bind fun _ => trivial
  exact Prog.Uses.bind (uses_sql ⟨⟨⟨req, rfl⟩, hid⟩, trivial⟩) fun _ => uses_sql ⟨⟨⟨req, rfl⟩, hid⟩, trivial⟩

theorem triggerWorkflowSchedule_uses (req : ScheduleRequest) :
    (ScheduleService.triggerWorkflowSchedule cfg req).Uses
      ((Request.triggerWorkflowSchedule req).footprint cfg) := by
  refine uses_uuid_bind fun scheduleId _ => uses_requireNonEmpty_bind ?_
  refine (find_uses cfg _ _ _ _).bind fun schedule => (uses_stmt ⟨trivial, trivial⟩).bind fun runId => ?_
  exact (uses_call (create_uses cfg (.inr ⟨req, rfl⟩) _)).bind fun _ => trivial

theorem setEnabled_uses {req : Request} (ns : String) {set : String → Store Bool}
    (h : (set ns).Uses (req.footprint cfg)) : (NamespaceService.setEnabled ns set).Uses (req.footprint cfg) := by
  refine uses_requireNonEmpty_bind ((uses_call h).bind fun _ => ?_)
  exact (uses_stmt ⟨trivial, trivial⟩).bind fun found => (uses_orFail _ _).bind fun _ => trivial

theorem fireTemplate_uses (ticks : Nat) (now : Int) (template : WorkflowRun) :
    (Coordinator.fireTemplate cfg now template).Uses ((Request.coordinator ticks).footprint cfg) := by
  unfold Coordinator.fireTemplate
  split
  next => trivial
  next => trivial
  next => exact uses_sql ⟨⟨ticks, rfl⟩, trivial⟩
  next =>
    refine (uses_sql ⟨trivial, trivial⟩).bind fun granted => ?_
    cases granted with
    | false => trivial
    | true =>
        refine Prog.Uses.bind (uses_sql ⟨⟨ticks, rfl⟩, trivial⟩) fun created => ?_
        cases created with
        | none => exact uses_sql ⟨⟨ticks, rfl⟩, trivial⟩
        | some runId =>
            exact Prog.Uses.bind (uses_sql ⟨trivial, trivial⟩).attempt fun _ => uses_sql ⟨⟨ticks, rfl⟩, trivial⟩

theorem run_uses (ticks n : Nat) :
    (Coordinator.run cfg n).Uses ((Request.coordinator ticks).footprint cfg) := by
  have hfire : ∀ now templates, (Coordinator.fireTemplates cfg now templates).Uses
      ((Request.coordinator ticks).footprint cfg) := by
    intro now templates
    induction templates with
    | nil => trivial
    | cons template templates ih => exact (fireTemplate_uses cfg ticks now template).bind fun _ => ih
  have htick : (Coordinator.tick cfg).Uses ((Request.coordinator ticks).footprint cfg) := by
    refine Prog.Uses.bind (Prog.Uses.attempt ?_) fun _ =>
      Prog.Uses.bind (uses_sql ⟨trivial, trivial⟩).attempt fun _ => trivial
    refine (uses_sql ⟨trivial, trivial⟩).bind fun now => ?_
    exact Prog.Uses.bind (uses_sql ⟨⟨ticks, rfl⟩, trivial⟩) fun templates => hfire now templates
  induction n with
  | zero => trivial
  | succ n ih => exact htick.bind fun _ => ih.bind fun _ => trivial

/-- A handler runs only statements that its request may run. -/
theorem handle_footprint (req : Request) : (handle cfg req).Uses (req.footprint cfg) := by
  cases req with
  | startWorkflow req => exact startWorkflow_uses cfg req
  | getWorkflow req => exact getWorkflow_uses cfg req
  | cancelWorkflow req => exact cancelWorkflow_uses cfg req
  | retryWorkflow req => exact retryWorkflow_uses cfg req
  | terminateWorkflow req => exact terminateWorkflow_uses cfg req
  | register req => exact register_uses cfg req
  | heartbeat req => exact heartbeat_uses cfg req
  | deregister req => exact deregister_uses cfg req
  | pollTask req waits => exact pollTask_uses cfg req waits
  | beginStep req => exact beginStep_uses cfg req
  | completeStep req => exact completeStep_uses cfg req
  | failStep req => exact failStep_uses cfg req
  | completeWorkflow req => exact completeWorkflow_uses cfg req
  | failWorkflow req => exact failWorkflow_uses cfg req
  | sleep req => exact sleep_uses cfg req
  | createWorkflowSchedule req => exact createWorkflowSchedule_uses cfg req
  | updateWorkflowSchedule req => exact updateWorkflowSchedule_uses cfg req
  | deleteWorkflowSchedule req => exact deleteWorkflowSchedule_uses cfg req
  | triggerWorkflowSchedule req => exact triggerWorkflowSchedule_uses cfg req
  | pauseWorkflowSchedule req => exact pauseWorkflowSchedule_uses cfg req
  | resumeWorkflowSchedule req => exact resumeWorkflowSchedule_uses cfg req
  | drainWorker workerId => exact drainWorker_uses cfg workerId
  | enableNamespace ns =>
      exact setEnabled_uses cfg ns ((uses_sql ⟨trivial, trivial⟩).bind fun _ => uses_sql ⟨trivial, trivial⟩)
  | disableNamespace ns =>
      exact setEnabled_uses cfg ns ((uses_sql ⟨trivial, trivial⟩).bind fun _ => uses_sql ⟨trivial, trivial⟩)
  | coordinator ticks => exact (run_uses cfg ticks ticks).bind fun _ => trivial

theorem handle_uses (req : Request) : (handle cfg req).Uses (req.may cfg) :=
  (handle_footprint cfg req).mono fun _ h => h.1

end Handlers

/-- What is known of a coordinator that has ended: if it met no error, it has
handled every template it read. -/
def Reported (Done : Int → WorkflowRun → Now → Prop) (i : Nat) (req : Request) (resp : Response)
    (m : Now) : Prop :=
  ∀ ticks, req = .coordinator ticks → resp = .coordinator [] → Handled i Done m

/-- To serve all requests, look at the coordinator and at what the other requests
may do. -/
theorem serves_of_rule {cfg : Config} {S : Service Stmt Stmt.Result World Env Request Status Response}
    {Γ : Condition Stmt Stmt.Result World Env} {K : Now → Prop}
    {Snap : Nat → Int → WorkflowRun → Now → Prop} {Made : WorkflowRun → Int → Now → Prop}
    {Done : Int → WorkflowRun → Now → Prop} (hspawn : S.spawn = handle cfg)
    (hmay : ∀ req, S.accepts req → (∀ ticks, req ≠ .coordinator ticks) → ∀ q, req.may cfg q →
      ∀ i e m, K m → S.admits i e q m → Γ i e q m)
    (R : ∀ i, CoordinatorRule cfg S.toEngine Γ i K (Snap i) Made Done) :
    Serves S Γ K (Reported Done) (fun _ _ _ _ => True) := by
  intro i req hacc
  have hK : Invariant (S.toEngine.restrict Γ) K := (R i).inv
  rw [hspawn]
  by_cases h : ∃ ticks, req = .coordinator ticks
  · obtain ⟨ticks, rfl⟩ := h
    have hfresh : Stable S.toEngine Γ i fun m => ∀ ran ∈ m.trace, ran.caller ≠ i := by
      intro j e q m hj hm _ _ ran hran
      rcases List.mem_cons.mp hran with rfl | hran
      · exact hj
      · exact hm ran hran
    refine ⟨_, hK.stable.and hfresh, fun m hm hf => ⟨hm, hf⟩, ?_⟩
    exact ((R i).sat_coordinator ticks).mono (fun _ h => h) (fun _ _ hm _ _ => hm.2)
      fun _ _ _ => trivial
  · have h' : ∀ ticks, req ≠ .coordinator ticks := fun ticks heq => h ⟨ticks, heq⟩
    refine ⟨K, hK.stable, fun _ hm _ => hm, ?_⟩
    refine (Sat.of_uses (handle_uses cfg req) hK.stable fun e q m hq hm ha => ?_).mono
      (fun _ hm => hm) (fun _ _ _ ticks heq => absurd heq (h' ticks)) (fun _ _ _ => trivial)
    have hΓ := hmay req hacc h' q hq i e m hm ha
    exact ⟨hΓ, hK i e q m hm ⟨ha, hΓ⟩⟩

/-- Where every statement that a request may run meets the guarantee, every request
meets it. -/
theorem serves_of_may {cfg : Config} {S : Service Stmt Stmt.Result World Env Request Status Response}
    {Γ : Condition Stmt Stmt.Result World Env} {K : Now → Prop} (hspawn : S.spawn = handle cfg)
    (hK : Invariant (S.toEngine.restrict Γ) K)
    (hmay : ∀ req, S.accepts req → ∀ q, req.may cfg q →
      ∀ i e m, K m → S.admits i e q m → Γ i e q m) :
    Serves S Γ K (fun _ _ _ _ => True) (fun _ _ _ _ => True) := by
  intro i req hacc
  rw [hspawn]
  refine ⟨K, hK.stable, fun _ hm _ => hm, ?_⟩
  refine (Sat.of_uses (handle_uses cfg req) hK.stable fun e q m hq hm ha => ?_).mono
    (fun _ hm => hm) (fun _ _ _ => trivial) (fun _ _ _ => trivial)
  have hΓ := hmay req hacc q hq i e m hm ha
  exact ⟨hΓ, hK i e q m hm ⟨ha, hΓ⟩⟩

/-- Whatever a request in progress does next, it may do. -/
theorem server_may {cfg : Config} {accepts : Request → Prop} {p p' : ServerState}
    (h : Steps (server cfg accepts) p p')
    (hp : ∀ (i : Nat) (req : Request) (c : Rpc Response),
      p.calls[i]? = some (req, c) → c.Uses (req.may cfg)) :
    ∀ (i : Nat) (req : Request) (c : Rpc Response),
      p'.calls[i]? = some (req, c) → c.Uses (req.may cfg) :=
  let C : Nat → Request → Rpc Response → Prop := fun _ req c => c.Uses (req.may cfg)
  Steps.calls (C := C) (fun _ req _ => handle_uses cfg req) (fun _ _ _ _ a hc => hc.2 a) h hp

end Kagzi
