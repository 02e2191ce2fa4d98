import Kagzi.Sdk.Context

/-!
# The builders of the SDK

`Retry` of `retry.rs`, the builders of `client.rs` with the requests they send, and
`WorkerBuilder` of `worker.rs` with the requests its worker sends to poll.  The handlers of a worker are left out here; `PollCall` has them.
-/

namespace Kagzi

namespace Sdk

/-! ## Retries -/

/-- `as_millis`. -/
def Duration.asMillis (d : Duration) : Nat := d.asNanos / 1000000

/-- A number of whole seconds. -/
def Duration.fromSecs (secs : Nat) : Duration := ⟨secs, 0, by decide⟩

/-- `x as i32` for an unsigned 32-bit `x`. -/
def asI32 (x : Nat) : Int := if x < 2 ^ 31 then x else x - 2 ^ 32

/-- `Retry`.  The number of attempts is a `u32`. -/
structure Retry where
  attempts : Nat
  attempts_lt : attempts < 2 ^ 32
  initialInterval : Duration
  maxInterval : Duration
  backoffCoefficient : F64
  nonRetryableErrors : List String
deriving DecidableEq

namespace Retry

/-- `Retry::attempts`, which is `Retry::exponential` as well. -/
def ofAttempts (n : Nat) (h : n < 2 ^ 32) : Retry :=
  { attempts := n
    attempts_lt := h
    initialInterval := .fromSecs 1
    maxInterval := .fromSecs 60
    backoffCoefficient := .finite 2
    nonRetryableErrors := [] }

/-- `Retry::default`. -/
def default : Retry := ofAttempts 3 (by decide)

/-- `Retry::none`. -/
def none : Retry := ofAttempts 0 (by decide)

/-- `validate`. -/
def validate (r : Retry) : Except String Unit :=
  if r.initialInterval.asNanos = 0 then .error "initial_interval must be positive"
  else if r.maxInterval.asNanos = 0 then .error "max_interval must be positive"
  else if r.backoffCoefficient.isBelow 1 then .error "backoff_coefficient must be >= 1.0"
  else if r.maxInterval.asNanos < r.initialInterval.asNanos then
    .error "initial_interval cannot be greater than max_interval"
  else .ok ()

/-- `From<Retry>` of the message. -/
def toProto (r : Retry) : ProtoPolicy :=
  { maximumAttempts := asI32 r.attempts
    initialIntervalMs := asI64 r.initialInterval.asMillis
    backoffCoefficient := r.backoffCoefficient
    maximumIntervalMs := asI64 r.maxInterval.asMillis
    nonRetryableErrors := r.nonRetryableErrors }

end Retry

/-! ## The client -/

/-- `StartWorkflowBuilder`. -/
structure StartWorkflowBuilder where
  workflowType : String
  ns : String
  input : Option Bytes
  idempotencyKey : Option String
deriving DecidableEq

/-- `Kagzi::start`. -/
def start (workflowType : String) : StartWorkflowBuilder := ⟨workflowType, "default", none, none⟩

namespace StartWorkflowBuilder

/-- `validate`. -/
def validate (b : StartWorkflowBuilder) : Except String Unit :=
  if b.workflowType = "" then .error "workflow_type cannot be empty"
  else if b.ns = "" then .error "namespace cannot be empty"
  else .ok ()

/-- The request that `send` sends.  Without a key the external id is a new one. -/
def send (b : StartWorkflowBuilder) (newId : String) : Except String StartWorkflowRequest := do
  b.validate
  .ok
    { externalId := b.idempotencyKey.getD newId
      taskQueue := b.workflowType
      workflowType := b.workflowType
      input := b.input
      ns := b.ns
      version := ""
      retryPolicy := none }

end StartWorkflowBuilder

/-- `ScheduleBuilder`. -/
structure ScheduleBuilder where
  scheduleId : String
  ns : String
  workflowType : Option String
  cron : Option String
  input : Option Bytes
  maxCatchup : Int
  enabled : Bool
deriving DecidableEq

/-- `Kagzi::schedule`. -/
def schedule (scheduleId : String) : ScheduleBuilder :=
  ⟨scheduleId, "default", none, none, none, 100, true⟩

/-- `char::is_whitespace`. -/
def isWhitespace (c : Char) : Bool :=
  let n := c.toNat
  (0x9 ≤ n && n ≤ 0xd) || n = 0x20 || n = 0x85 || n = 0xa0 || n = 0x1680 ||
    (0x2000 ≤ n && n ≤ 0x200a) || n = 0x2028 || n = 0x2029 || n = 0x202f || n = 0x205f ||
    n = 0x3000

namespace ScheduleBuilder

/-- `validate`, with the workflow type and the expression that it finds. -/
def validate (cfg : Config) (b : ScheduleBuilder) : Except String (String × String) :=
  if b.scheduleId.toList.all isWhitespace then .error "schedule_id cannot be empty"
  else if b.ns = "" then .error "namespace cannot be empty"
  else
    match b.workflowType with
    | none => .error "workflow_type is required"
    | some workflowType =>
        if workflowType = "" then .error "workflow_type cannot be empty"
        else
          match b.cron with
          | none => .error "cron expression is required"
          | some cron =>
              match cfg.cronSchedule cron with
              | .error e => .error ("Invalid cron expression '" ++ cron ++ "': " ++ e)
              | .ok _ =>
                  if b.maxCatchup < 0 then .error "max_catchup must be non-negative"
                  else .ok (workflowType, cron)

/-- The request that `send` sends. -/
def send (cfg : Config) (b : ScheduleBuilder) : Except String CreateWorkflowScheduleRequest := do
  let (workflowType, cron) ← b.validate cfg
  .ok
    { ns := b.ns
      scheduleId := b.scheduleId
      taskQueue := workflowType
      workflowType := workflowType
      cronExpr := cron
      input := b.input
      enabled := some b.enabled
      maxCatchup := some b.maxCatchup
      version := none }

end ScheduleBuilder

/-! ## The worker -/

/-- `WorkerBuilder`, with the names of its workflows. -/
structure WorkerBuilder where
  ns : String
  maxConcurrent : Nat
  defaultRetry : Option Retry
  hostname : Option String
  version : Option String
  workflows : List String
deriving DecidableEq

/-- `WorkerBuilder::new`, and `workflows`. -/
def worker (workflows : List String) : WorkerBuilder := ⟨"default", 100, none, none, none, workflows⟩

/-- `Worker`, before it registers. -/
structure Worker where
  ns : String
  hostname : Option String
  version : Option String
  defaultRetry : Option Retry
  workflowTypes : List String
deriving DecidableEq

namespace WorkerBuilder

/-- `validate`. -/
def validate (b : WorkerBuilder) : Except String Unit :=
  if b.maxConcurrent = 0 then .error "max_concurrent must be greater than 0"
  else
    match b.defaultRetry.elim (.ok ()) Retry.validate with
    | .error e => .error ("Invalid retry configuration: " ++ e)
    | .ok () =>
        if "" ∈ b.workflows then .error "Workflow names cannot be empty" else .ok ()

/-- `build`, without the connection. -/
def build (b : WorkerBuilder) : Except String Worker := do
  b.validate
  if b.workflows = [] then .error "At least one workflow must be registered"
  else
    .ok
      { ns := b.ns
        hostname := b.hostname
        version := b.version
        defaultRetry := b.defaultRetry
        workflowTypes := b.workflows }

end WorkerBuilder

namespace Worker

/-- The requests with which the registered worker polls. -/
def pollRequest (w : Worker) (workerId : String) : Option PollTaskRequest :=
  w.workflowTypes.head?.map fun primaryQueue =>
    { taskQueue := primaryQueue
      workerId := workerId
      ns := w.ns
      workflowTypes := w.workflowTypes }

end Worker

/-! ## What is sent -/

theorem StartWorkflowBuilder.of_send {b : StartWorkflowBuilder} {newId : String}
    {req : StartWorkflowRequest} (h : b.send newId = .ok req) :
    req.ns = b.ns ∧ req.taskQueue = b.workflowType ∧ req.workflowType = b.workflowType := by
  unfold send at h
  cases hv : b.validate with
  | error e => simp [hv, bind, Except.bind] at h
  | ok _ =>
      simp only [hv, bind, Except.bind, Except.ok.injEq] at h
      subst h
      exact ⟨rfl, rfl, rfl⟩

/-- What `validate` finds. -/
theorem ScheduleBuilder.of_validate {cfg : Config} {b : ScheduleBuilder} {workflowType cron : String}
    (h : b.validate cfg = .ok (workflowType, cron)) : b.workflowType = some workflowType := by
  unfold validate at h
  grind

theorem ScheduleBuilder.of_send {cfg : Config} {b : ScheduleBuilder}
    {req : CreateWorkflowScheduleRequest} (h : b.send cfg = .ok req) :
    req.ns = b.ns ∧ req.taskQueue = req.workflowType ∧ b.workflowType = some req.workflowType := by
  unfold send at h
  cases hv : b.validate cfg with
  | error e => simp [hv, bind, Except.bind] at h
  | ok found =>
      simp only [hv, bind, Except.bind, Except.ok.injEq] at h
      subst h
      exact ⟨rfl, rfl, of_validate hv⟩

end Sdk

end Kagzi
