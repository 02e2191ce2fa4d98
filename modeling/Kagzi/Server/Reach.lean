import Kagzi.Server.Footprint
import Kagzi.Store.Work

/-!
# What a request may do besides

`Server.Footprint` bounds what a request does to the runs and the steps that are there.
`Request.reach` bounds the rest: the runs that it creates, and what it does to the workers and
the namespaces.  `handle_reaches` proves the bound for every handler.
-/

namespace Kagzi

open Atomic

/-- The runs that a request can create.  A retry and a trigger copy what they have read into the
namespace that they name. -/
def Request.creates (req : Request) (params : CreateWorkflow) : Prop :=
  match req with
  | .startWorkflow r =>
      params.work = ⟨params.runId, r.ns, r.taskQueue, r.workflowType, payloadToBytes r.input⟩
  | .createWorkflowSchedule r =>
      params.work = ⟨params.runId, r.ns, r.taskQueue, r.workflowType,
        (payloadToOptionalBytes r.input).getD []⟩
  | .retryWorkflow r => params.ns = r.ns
  | .triggerWorkflowSchedule r => params.ns = r.ns
  | _ => False

/-- The worker that a request drains or takes offline. -/
def Request.leaver (cfg : Config) (drain : Bool) : Request → Option Uuid
  | .deregister r => if r.drain = drain then cfg.parseUuid r.workerId else none
  | .drainWorker text => if drain = true then cfg.parseUuid text else none
  | _ => none

/-- The namespace that a request switches on or off. -/
def Request.switches (enabled : Bool) : Request → Option String
  | .enableNamespace ns => if enabled = true then some ns else none
  | .disableNamespace ns => if enabled = true then none else some ns
  | _ => none

/-- The statements a request can run that create a run, ask for one, or write a worker or a
namespace.  Of the others, any is allowed. -/
def Request.reach (cfg : Config) (req : Request) : Stmt → Prop
  | .createWorkflow params => req.creates params
  | .pollWorkflow ns _ _ _ _ => ∃ r waits, req = .pollTask r waits ∧ r.ns = ns
  | .registerWorker params =>
      ∃ r, req = .register r ∧ params.ns = r.ns ∧ params.taskQueue = r.taskQueue ∧
        params.workflowTypes = r.workflowTypes
  | .heartbeatWorker workerId => ∃ r, req = .heartbeat r ∧ cfg.parseUuid r.workerId = some workerId
  | .startDrain workerId _ => req.leaver cfg true = some workerId
  | .deregisterWorker workerId _ => req.leaver cfg false = some workerId
  | .markStaleOffline secs =>
      (∃ ticks, req = .coordinator ticks) ∧ secs = cfg.coordinator.workerStaleThresholdSecs
  | .upsertNamespace name _ =>
      (∃ r, req = .startWorkflow r ∧ r.ns = name) ∨ ∃ r, req = .createWorkflowSchedule r ∧
      r.ns = name
  | .setNamespaceEnabled name enabled _ => req.switches enabled = some name
  | _ => True

/-! ## Parts of handlers -/

theorem reach_readsSteps {cfg : Config} {req : Request} {q : Stmt} (h : q.readsSteps = true) :
    req.reach cfg q := by
  cases q with
  | latestStep _ _ => trivial
  | latestStepKind _ _ => trivial
  | getRetryInfo _ _ => trivial
  | listSteps _ _ _ _ => trivial
  | newUuid => trivial
  | random => trivial
  | _ => cases h

theorem allowsInsert_reach {cfg : Config} {req : Request} (step : NewStep) :
    AllowsInsert (req.reach cfg) step :=
  ⟨trivial, trivial⟩

section Handlers
variable (cfg : Config)

/-- `get_or_create` of the namespace that the request names. -/
theorem getOrCreate_reaches {req : Request} {ns : String}
    (h : ∀ now, req.reach cfg (.upsertNamespace ns now)) :
    (NamespaceRepository.getOrCreate ns).Uses (req.reach cfg) := by
  refine (uses_sql trivial).bind fun found => ?_
  cases found with
  | some _ => trivial
  | none => exact (uses_sql trivial).bind fun now => uses_sql (h now)

theorem create_reaches {req : Request} {params : CreateWorkflow} (h : req.creates params)
    (max : Nat) :
    (WorkflowRepository.create max params).Uses (req.reach cfg) :=
  (Prog.uses_ofExcept _).bind fun _ => uses_sql h

theorem recordEvent_reaches (req : Request) (runId : Uuid) (stepKind : StepKind)
    (output : Option Bytes) :
    (StepRepository.recordLifecycleEvent cfg.payloadMaxSizeBytes cfg.utf8 runId stepKind
      output).Uses (req.reach cfg) :=
  recordLifecycleEvent_uses reach_readsSteps _ _ _ (fun _ _ _ _ => trivial) fun step _ _ _ =>
    allowsInsert_reach step

theorem startWorkflow_reaches (req : StartWorkflowRequest) :
    (WorkflowService.startWorkflow cfg req).Uses ((Request.startWorkflow req).reach cfg) := by
  refine uses_requireNonEmpty_bind (uses_requireNonEmpty_bind (uses_requireNonEmpty_bind
    (uses_requireNonEmpty_bind ?_)))
  refine (uses_call (getOrCreate_reaches cfg fun _ => .inl ⟨req, rfl, rfl⟩)).bind fun _ =>
    (uses_stmt trivial).bind fun runId => ?_
  refine Prog.Uses.bind (create_reaches cfg (by rfl) _).attempt fun created => ?_
  cases created with
  | ok id => exact Prog.Uses.bind (uses_sql trivial).attempt fun _ => trivial
  | error e =>
      dsimp only
      split
      next =>
        refine (uses_stmt trivial).bind fun existing => ?_
        exact (uses_orFail _ _).bind fun _ => trivial
      next => trivial

theorem getWorkflow_reaches (req : GetWorkflowRequest) :
    (WorkflowService.getWorkflow cfg req).Uses ((Request.getWorkflow req).reach cfg) := by
  refine uses_uuid_bind fun runId _ => uses_requireNonEmpty_bind ?_
  refine (uses_stmt trivial).bind fun found => ?_
  cases found with
  | none => trivial
  | some w =>
      dsimp only
      split
      next => trivial
      next => exact (uses_stmt trivial).bind fun _ => trivial

theorem cancelWorkflow_reaches (req : CancelWorkflowRequest) :
    (WorkflowService.cancelWorkflow cfg req).Uses ((Request.cancelWorkflow req).reach cfg) := by
  refine uses_uuid_bind fun runId hid => uses_requireNonEmpty_bind ?_
  have hcancel : (WorkflowRepository.cancel runId req.ns).Uses
      ((Request.cancelWorkflow req).reach cfg) := by
    refine (uses_sql trivial).bind fun hit => ?_
    cases hit with
    | true => trivial
    | false => exact uses_sql trivial
  refine (uses_call hcancel).bind fun cancelled => ?_
  cases cancelled with
  | true =>
      exact Prog.Uses.bind (recordEvent_reaches cfg _ _ _ _).attempt
        fun _ => trivial
  | false =>
      refine (uses_stmt trivial).bind fun found => ?_
      split <;> trivial

theorem retryWorkflow_reaches (req : RetryWorkflowRequest) :
    (WorkflowService.retryWorkflow cfg req).Uses ((Request.retryWorkflow req).reach cfg) := by
  refine uses_uuid_bind fun runId _ => uses_requireNonEmpty_bind ?_
  refine (uses_stmt trivial).bind fun found => (uses_orFail _ _).bind fun workflow => ?_
  split
  next => trivial
  next =>
    refine (uses_stmt trivial).bind fun newId => ?_
    exact (uses_call (create_reaches cfg (by rfl) _)).bind fun _ => trivial

theorem terminateWorkflow_reaches (req : TerminateWorkflowRequest) :
    (WorkflowService.terminateWorkflow cfg req).Uses
      ((Request.terminateWorkflow req).reach cfg) := by
  refine uses_uuid_bind fun runId hid => uses_requireNonEmpty_bind ?_
  refine (uses_call ?_).bind fun _ => trivial
  exact (uses_sql trivial).bind fun _ => trivial

theorem validateWorkflowAction_reaches (req : Request) (runId : Uuid) :
    (WorkerService.validateWorkflowAction cfg runId).Uses (req.reach cfg) := by
  refine (uses_stmt trivial).bind fun found => (uses_orFail _ _).bind fun ns => ?_
  refine (uses_stmt trivial).bind fun check => ?_
  split
  next => trivial
  next =>
    split
    next => split <;> trivial
    next => trivial

theorem register_reaches (req : RegisterRequest) :
    (WorkerService.register cfg req).Uses ((Request.register req).reach cfg) := by
  unfold WorkerService.register
  split
  next => trivial
  next =>
    exact uses_requireNonEmpty_bind ((uses_stmt ⟨req, rfl, rfl, rfl, rfl⟩).bind fun _ => trivial)

theorem heartbeat_reaches (req : HeartbeatRequest) :
    (WorkerService.heartbeat cfg req).Uses ((Request.heartbeat req).reach cfg) := by
  refine uses_uuid_bind fun workerId hid => (uses_stmt ⟨req, rfl, hid⟩).bind fun hit => ?_
  cases hit with
  | true =>
      refine Prog.Uses.bind (uses_stmt trivial) fun _ => ?_
      exact (uses_stmt trivial).bind fun _ => trivial
  | false => trivial

theorem deregister_reaches (req : DeregisterRequest) :
    (WorkerService.deregister cfg req).Uses ((Request.deregister req).reach cfg) := by
  refine uses_uuid_bind fun workerId hid => (uses_stmt trivial).bind fun found => ?_
  refine (uses_orFail _ _).bind fun worker => Prog.Uses.bind ?_ fun _ => trivial
  unfold WorkerService.leave
  split
  next hdrain => exact uses_stmt ((if_pos hdrain).trans hid)
  next hdrain => exact uses_stmt ((if_pos (Bool.eq_false_iff.mpr hdrain)).trans hid)

theorem drainWorker_reaches (workerText : String) :
    (WorkerService.drainWorker cfg workerText).Uses
    ((Request.drainWorker workerText).reach cfg) := by
  refine uses_uuid_bind fun workerId hid => (uses_stmt trivial).bind fun found => ?_
  exact (uses_orFail _ _).bind fun worker => (uses_stmt hid).bind fun _ => trivial

theorem dispatch_reaches (req : PollTaskRequest) (waits : Nat) (item : ClaimedWorkflow) :
    (WorkerService.dispatch cfg item).Uses ((Request.pollTask req waits).reach cfg) := by
  refine Prog.Uses.bind (uses_sql trivial).attempt fun _ => ?_
  exact Prog.Uses.bind (recordEvent_reaches cfg _ _ _ _).attempt fun _ => trivial

theorem pollLoop_reaches (req : PollTaskRequest) (types : List String) (waits n : Nat) :
    (WorkerService.pollLoop cfg req types n).Uses ((Request.pollTask req waits).reach cfg) := by
  induction n with
  | zero =>
      refine Prog.Uses.bind (uses_stmt ⟨req, waits, rfl, rfl⟩) fun found => ?_
      cases found with
      | some item => exact dispatch_reaches cfg req waits item
      | none => trivial
  | succ n ih =>
      refine Prog.Uses.bind (uses_stmt ⟨req, waits, rfl, rfl⟩) fun found => ?_
      cases found with
      | some item => exact dispatch_reaches cfg req waits item
      | none => exact ih

theorem pollTask_reaches (req : PollTaskRequest) (waits : Nat) :
    (WorkerService.pollTask cfg req waits).Uses ((Request.pollTask req waits).reach cfg) := by
  refine uses_uuid_bind fun workerId _ => ?_
  split
  next => trivial
  next =>
    refine uses_requireNonEmpty_bind ((uses_stmt trivial).bind fun found => ?_)
    refine (uses_orFail _ _).bind fun worker => ?_
    split
    next => trivial
    next =>
      split
      next => trivial
      next =>
        split
        next => trivial
        next =>
          dsimp only
          split
          next => trivial
          next => exact pollLoop_reaches cfg req _ waits waits

theorem beginStep_reaches (req : BeginStepRequest) :
    (WorkerService.beginStep cfg req).Uses ((Request.beginStep req).reach cfg) := by
  refine uses_uuid_bind fun runId hid => (validateWorkflowAction_reaches cfg _ runId).bind fun _ =>
    ?_
  refine (uses_stmt trivial).bind fun policy => (Prog.uses_ofExcept _).bind fun stepKind => ?_
  refine (uses_call (begin_uses reach_readsSteps _ fun _ => allowsInsert_reach _)).bind
    fun result => Prog.Uses.bind ?_ fun _ => trivial
  unfold WorkerService.finishSleep
  split
  next =>
    exact uses_call (complete_uses reach_readsSteps _ trivial
      fun step _ _ => allowsInsert_reach step)
  next => trivial

theorem completeStep_reaches (req : CompleteStepRequest) :
    (WorkerService.completeStep cfg req).Uses ((Request.completeStep req).reach cfg) := by
  refine uses_uuid_bind fun runId hid => (validateWorkflowAction_reaches cfg _ runId).bind fun ns =>
    ?_
  refine (uses_call (complete_uses reach_readsSteps _ trivial
    fun step _ _ => allowsInsert_reach step)).bind fun _ => ?_
  exact (uses_stmt trivial).bind fun rows => (uses_orFail _ _).bind fun _ => trivial

theorem failStep_reaches (req : FailStepRequest) :
    (WorkerService.failStep cfg req).Uses ((Request.failStep req).reach cfg) := by
  refine uses_uuid_bind fun runId hid => uses_requireNonEmpty_bind ?_
  have hfail : (StepRepository.fail (WorkerService.failStepParams runId req)).Uses
      ((Request.failStep req).reach cfg) :=
    fail_uses reach_readsSteps trivial trivial
      fun step _ _ => allowsInsert_reach step
  refine (uses_call hfail).bind fun result => ?_
  refine Prog.Uses.bind ?_ fun _ => trivial
  unfold WorkerService.scheduleRetry
  split
  next =>
    exact uses_call (Prog.Uses.bind (uses_sql trivial) fun _ => trivial)
  next => trivial

theorem completeWorkflow_reaches (req : CompleteWorkflowRequest) :
    (WorkerService.completeWorkflow cfg req).Uses ((Request.completeWorkflow req).reach cfg) := by
  refine uses_uuid_bind fun runId hid => ?_
  refine (validateWorkflowAction_reaches cfg _ runId).bind fun _ => Prog.Uses.bind (uses_call ?_) ?_
  · refine (Prog.uses_ofExcept _).bind fun _ => ?_
    refine Prog.Uses.bind (uses_sql trivial) fun hit => ?_
    split
    next => trivial
    next => exact uses_sql trivial
  · intro _
    exact Prog.Uses.bind (recordEvent_reaches cfg _ _ _ _).attempt
      fun _ => trivial

theorem failWorkflow_reaches (req : FailWorkflowRequest) :
    (WorkerService.failWorkflow cfg req).Uses ((Request.failWorkflow req).reach cfg) := by
  refine uses_uuid_bind fun runId hid => ?_
  refine (validateWorkflowAction_reaches cfg _ runId).bind fun _ => Prog.Uses.bind (uses_call ?_) ?_
  · exact Prog.Uses.bind (uses_sql trivial) fun _ => trivial
  · intro _
    exact Prog.Uses.bind (recordEvent_reaches cfg _ _ _ _).attempt
      fun _ => trivial

theorem sleep_reaches (req : SleepRequest) :
    (WorkerService.sleep cfg req).Uses ((Request.sleep req).reach cfg) := by
  refine uses_uuid_bind fun runId hid => ?_
  refine (uses_orFail _ _).bind fun duration => (uses_orFail _ _).bind fun secs => ?_
  split
  next => trivial
  next =>
    refine (uses_call ?_).bind fun _ => trivial
    exact Prog.Uses.bind (uses_sql trivial) fun _ => trivial

theorem find_reaches (req : Request) (runId : Uuid) (ns scheduleId : String) :
    (ScheduleService.find runId ns scheduleId).Uses (req.reach cfg) :=
  (uses_stmt trivial).bind fun _ => uses_orFail _ _

theorem answer_reaches (req : Request) (w : WorkflowRun) :
    (ScheduleService.answer cfg w).Uses (req.reach cfg) :=
  (Prog.uses_ofExcept _).bind fun _ => trivial

theorem createWorkflowSchedule_reaches (req : CreateWorkflowScheduleRequest) :
    (ScheduleService.createWorkflowSchedule cfg req).Uses
      ((Request.createWorkflowSchedule req).reach cfg) := by
  refine uses_requireNonEmpty_bind (uses_requireNonEmpty_bind (uses_requireNonEmpty_bind
    (uses_requireNonEmpty_bind (uses_requireNonEmpty_bind ?_))))
  refine (uses_call (getOrCreate_reaches cfg fun _ => .inr ⟨req, rfl, rfl⟩)).bind fun _ =>
    (uses_stmt trivial).bind fun now => ?_
  refine (Prog.uses_ofExcept _).bind fun firstFire => (uses_stmt trivial).bind fun existing => ?_
  cases existing with
  | some existingRunId =>
      refine (uses_stmt trivial).bind fun found => (uses_orFail _ _).bind fun existing => ?_
      exact Prog.Uses.bind
        (uses_stmt trivial)
        fun _ => answer_reaches cfg _ _
  | none =>
      refine (uses_stmt trivial).bind fun runId => ?_
      refine (uses_call (create_reaches cfg (by rfl) _)).bind fun _ => ?_
      refine (uses_stmt trivial).bind fun found => (uses_orFail _ _).bind fun template => ?_
      exact Prog.Uses.bind
        (uses_stmt trivial)
        fun _ => answer_reaches cfg _ _

theorem checkCron_reaches (req : Request) (cronExpr : Option String) :
    (ScheduleService.checkCron cfg cronExpr).Uses (req.reach cfg) := by
  cases cronExpr with
  | none => trivial
  | some expr =>
      refine (Prog.uses_ofExcept _).bind fun cron => (uses_stmt trivial).bind fun now => ?_
      exact (Prog.uses_ofExcept _).bind fun _ => trivial

theorem updateWorkflowSchedule_reaches (req : UpdateWorkflowScheduleRequest) :
    (ScheduleService.updateWorkflowSchedule cfg req).Uses
      ((Request.updateWorkflowSchedule req).reach cfg) := by
  refine uses_uuid_bind fun runId hid => uses_requireNonEmpty_bind ?_
  refine (find_reaches cfg _ _ _ _).bind fun current => (checkCron_reaches cfg _ _).bind fun _ => ?_
  refine Prog.Uses.bind ?_ fun _ => (find_reaches cfg _ _ _ _).bind fun _ => answer_reaches cfg _ _
  unfold ScheduleService.setEnabled
  split
  next =>
    refine (Prog.uses_ofExcept _).bind fun cron => (uses_stmt trivial).bind fun now => ?_
    exact (Prog.uses_ofExcept _).bind fun fire => uses_stmt trivial
  next => exact uses_stmt trivial
  next => trivial

theorem pauseWorkflowSchedule_reaches (req : ScheduleRequest) :
    (ScheduleService.pauseWorkflowSchedule cfg req).Uses
      ((Request.pauseWorkflowSchedule req).reach cfg) := by
  refine uses_uuid_bind fun runId hid => uses_requireNonEmpty_bind ?_
  refine (find_reaches cfg _ _ _ _).bind fun schedule => ?_
  exact Prog.Uses.bind (uses_stmt trivial) fun _ => answer_reaches cfg _ _

theorem resumeWorkflowSchedule_reaches (req : ScheduleRequest) :
    (ScheduleService.resumeWorkflowSchedule cfg req).Uses
      ((Request.resumeWorkflowSchedule req).reach cfg) := by
  refine uses_uuid_bind fun runId hid => uses_requireNonEmpty_bind ?_
  refine (find_reaches cfg _ _ _ _).bind fun schedule => (Prog.uses_ofExcept _).bind fun cron => ?_
  refine (uses_stmt trivial).bind fun now => (Prog.uses_ofExcept _).bind fun nextFire => ?_
  exact Prog.Uses.bind (uses_stmt trivial) fun _ => answer_reaches cfg _ _

theorem deleteWorkflowSchedule_reaches (req : ScheduleRequest) :
    (ScheduleService.deleteWorkflowSchedule cfg req).Uses
      ((Request.deleteWorkflowSchedule req).reach cfg) := by
  refine uses_uuid_bind fun runId hid => uses_requireNonEmpty_bind ?_
  refine (find_reaches cfg _ _ _ _).bind fun _ => (uses_call ?_).bind fun _ => trivial
  exact Prog.Uses.bind (uses_sql trivial) fun _ => uses_sql trivial

theorem triggerWorkflowSchedule_reaches (req : ScheduleRequest) :
    (ScheduleService.triggerWorkflowSchedule cfg req).Uses
      ((Request.triggerWorkflowSchedule req).reach cfg) := by
  refine uses_uuid_bind fun scheduleId _ => uses_requireNonEmpty_bind ?_
  refine (find_reaches cfg _ _ _ _).bind fun schedule => (uses_stmt trivial).bind fun runId => ?_
  exact (uses_call (create_reaches cfg (by rfl) _)).bind fun _ => trivial

theorem setEnabled_reaches {req : Request} (ns : String) {set : String → Store Bool}
    (h : (set ns).Uses (req.reach cfg)) :
    (NamespaceService.setEnabled ns set).Uses (req.reach cfg) := by
  refine uses_requireNonEmpty_bind ((uses_call h).bind fun _ => ?_)
  exact (uses_stmt trivial).bind fun found => (uses_orFail _ _).bind fun _ => trivial

theorem fireTemplate_reaches (ticks : Nat) (now : Int) (template : WorkflowRun) :
    (Coordinator.fireTemplate cfg now template).Uses ((Request.coordinator ticks).reach cfg) := by
  unfold Coordinator.fireTemplate
  split
  next => trivial
  next => trivial
  next => exact uses_sql trivial
  next =>
    refine (uses_sql trivial).bind fun granted => ?_
    cases granted with
    | false => trivial
    | true =>
        refine Prog.Uses.bind (uses_sql trivial) fun created => ?_
        cases created with
        | none => exact uses_sql trivial
        | some runId =>
            exact Prog.Uses.bind (uses_sql trivial).attempt fun _ => uses_sql trivial

theorem run_reaches (ticks n : Nat) :
    (Coordinator.run cfg n).Uses ((Request.coordinator ticks).reach cfg) := by
  have hfire : ∀ now templates, (Coordinator.fireTemplates cfg now templates).Uses
      ((Request.coordinator ticks).reach cfg) := by
    intro now templates
    induction templates with
    | nil => trivial
    | cons template templates ih =>
        exact (fireTemplate_reaches cfg ticks now template).bind fun _ => ih
  have htick : (Coordinator.tick cfg).Uses ((Request.coordinator ticks).reach cfg) := by
    refine Prog.Uses.bind (Prog.Uses.attempt ?_) fun _ =>
      Prog.Uses.bind (uses_sql ⟨⟨ticks, rfl⟩, rfl⟩).attempt fun _ => trivial
    refine (uses_sql trivial).bind fun now => ?_
    exact Prog.Uses.bind (uses_sql trivial) fun templates => hfire now templates
  induction n with
  | zero => trivial
  | succ n ih => exact htick.bind fun _ => ih.bind fun _ => trivial

/-- A handler runs only statements that its request may run. -/
theorem handle_reaches (req : Request) : (handle cfg req).Uses (req.reach cfg) := by
  cases req with
  | startWorkflow req => exact startWorkflow_reaches cfg req
  | getWorkflow req => exact getWorkflow_reaches cfg req
  | cancelWorkflow req => exact cancelWorkflow_reaches cfg req
  | retryWorkflow req => exact retryWorkflow_reaches cfg req
  | terminateWorkflow req => exact terminateWorkflow_reaches cfg req
  | register req => exact register_reaches cfg req
  | heartbeat req => exact heartbeat_reaches cfg req
  | deregister req => exact deregister_reaches cfg req
  | pollTask req waits => exact pollTask_reaches cfg req waits
  | beginStep req => exact beginStep_reaches cfg req
  | completeStep req => exact completeStep_reaches cfg req
  | failStep req => exact failStep_reaches cfg req
  | completeWorkflow req => exact completeWorkflow_reaches cfg req
  | failWorkflow req => exact failWorkflow_reaches cfg req
  | sleep req => exact sleep_reaches cfg req
  | createWorkflowSchedule req => exact createWorkflowSchedule_reaches cfg req
  | updateWorkflowSchedule req => exact updateWorkflowSchedule_reaches cfg req
  | deleteWorkflowSchedule req => exact deleteWorkflowSchedule_reaches cfg req
  | triggerWorkflowSchedule req => exact triggerWorkflowSchedule_reaches cfg req
  | pauseWorkflowSchedule req => exact pauseWorkflowSchedule_reaches cfg req
  | resumeWorkflowSchedule req => exact resumeWorkflowSchedule_reaches cfg req
  | drainWorker workerId => exact drainWorker_reaches cfg workerId
  | enableNamespace ns =>
      exact setEnabled_reaches cfg ns ((uses_sql trivial).bind fun _ => uses_sql rfl)
  | disableNamespace ns =>
      exact setEnabled_reaches cfg ns ((uses_sql trivial).bind fun _ => uses_sql rfl)
  | coordinator ticks => exact (run_reaches cfg ticks ticks).bind fun _ => trivial

end Handlers

end Kagzi
