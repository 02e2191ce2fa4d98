import Kagzi.Server.Service

/-!
# Steps in the worker SDK

`StepBuilder::run` of the SDK's `context.rs`, with the errors of `errors.rs`.  A
call of it sends `BeginStep`, and then `CompleteStep` up to four times, or
`FailStep`.  Here the call is a program of statements like the handlers, with
the handlers of its requests in it.  So is a call of `sleep_internal`, which sends
`BeginStep` and then `Sleep`.

What the surroundings decide is part of a `StepRun`: what the code of the step
returns, and which responses are lost on the way.  A request whose response is
lost may still reach the server, at any time: it then runs as a request of its
own.
-/

namespace Kagzi

open Atomic

namespace Sdk

/-! ## Values and errors -/

/-- How values are written and read, `serde_json::to_vec` and `from_slice`. -/
structure Codec (V : Type) where
  toVec : V → Option Bytes
  fromSlice : Bytes → Option V

/-- What is written of the value is read back as the value.  This is no law: a float may be
read back one unit in the last place off. -/
def Codec.ReadsBack {V : Type} (codec : Codec V) (v : V) : Prop :=
  ∀ bytes, codec.toVec v = some bytes → codec.fromSlice bytes = some v

/-- Booleans as one byte. -/
def Codec.bool : Codec Bool where
  toVec v := some [if v then 1 else 0]
  fromSlice bytes := some (bytes = [1])

theorem Codec.bool_readsBack (v : Bool) : Codec.bool.ReadsBack v := by
  intro bytes h
  obtain rfl := Option.some.inj h
  cases v <;> rfl

structure KagziError where
  code : ErrorCode
  message : String
  nonRetryable : Bool
  /-- In milliseconds. -/
  retryAfter : Option Nat
  subject : Option String
  subjectId : Option String
  metadata : List (String × String)
deriving DecidableEq

/-- `KagziError::new`. -/
def KagziError.new (code : ErrorCode) (message : String) : KagziError :=
  { code := code
    message := message
    nonRetryable :=
      code = .invalidArgument || code = .preconditionFailed || code = .conflict ||
        code = .unauthorized
    retryAfter := none
    subject := none
    subjectId := none
    metadata := [] }

/-- `to_detail`. -/
def KagziError.toDetail (e : KagziError) : ErrorDetail :=
  { code := e.code
    message := e.message
    nonRetryable := e.nonRetryable
    retryAfterMs := (e.retryAfter.map asI64).getD 0
    subject := e.subject.getD ""
    subjectId := e.subjectId.getD ""
    metadata := e.metadata }

/-- `From<Status>`, for a status with details. -/
def KagziError.ofStatus (status : Status) : KagziError :=
  let detail := status.detail
  { code := detail.code
    message := if detail.message = "" then status.message else detail.message
    nonRetryable := detail.nonRetryable
    retryAfter := if detail.retryAfterMs > 0 then some (asU64 detail.retryAfterMs) else none
    subject := if detail.subject = "" then none else some detail.subject
    subjectId := if detail.subjectId = "" then none else some detail.subjectId
    metadata := detail.metadata }

/-- The error the code of a step returns: one of the SDK, or any other with its
text. -/
inductive Failure where
  | kagzi (e : KagziError)
  | other (text : String)
deriving DecidableEq

/-- `downcast_ref`, or an internal error with the text. -/
def Failure.toKagzi : Failure → KagziError
  | .kagzi e => e
  | .other text => .new .internal text

/-- The errors of `StepBuilder::run`. -/
inductive StepError where
  | status (status : Status)
  | kagzi (e : KagziError)
  | json
  /-- `WorkflowPaused`. -/
  | paused
deriving DecidableEq

/-! ## Running a step -/

/-- A call of `StepBuilder::run`. -/
structure StepRun (V : Type) where
  ns : String
  runId : String
  name : String
  retry : Option ProtoPolicy
  /-- What the code of the step returns. -/
  outcome : Except Failure V
  /-- The response of `BeginStep` is lost. -/
  beginLost : Bool
  /-- Which responses of `CompleteStep` are lost. -/
  completeLost : List Bool
  /-- The response of `FailStep` is lost. -/
  failLost : Bool

/-- If the code of the step returns a value, the value is read back. -/
def StepRun.ReadsBack {V : Type} (codec : Codec V) (run : StepRun V) : Prop :=
  ∀ v, run.outcome = .ok v → codec.ReadsBack v

abbrev Call (α : Type) := Prog Stmt Stmt.Result StepError α

/-- Send a request.  A lost response is an error of the transport. -/
def send (lost : Bool) (handler : Rpc Response) : Rpc Response :=
  if lost then
    .fail ⟨.unavailable, errDetail .unspecified "transport error" false 0 "" ""⟩
  else handler

theorem send_uses {allowed : Stmt → Prop} {p : Rpc Response} (h : p.Uses allowed) (lost : Bool) :
    (send lost p).Uses allowed := by
  cases lost with
  | true => trivial
  | false => exact h

/-- The number of delays a default `ExponentialBuilder` gives. -/
def backoffDelays : Nat := 3

/-- The loop that sends `CompleteStep`.  A failed precondition is taken to mean
that the step is completed already, and counts as success. -/
def completeLoop (cfg : Config) (req : CompleteStepRequest) : Nat → List Bool → Call Unit
  | delays, lost => do
      match ← (send (lost.headD false) (WorkerService.completeStep cfg req)).attempt with
      | .ok _ => pure ()
      | .error e =>
          if e.code = .notFound then .fail (.kagzi (.ofStatus e))
          else if e.code = .failedPrecondition then pure ()
          else
            match delays with
            | 0 => .fail (.kagzi (.ofStatus e))
            | delays + 1 => completeLoop cfg req delays lost.tail

/-- The end of `run` when the code of the step succeeded. -/
def report {V : Type} (cfg : Config) (codec : Codec V) (run : StepRun V) (stepId : String)
    (value : V) : Call V :=
  match codec.toVec value with
  | none => .fail .json
  | some output => do
      completeLoop cfg ⟨run.ns, run.runId, stepId, some output⟩ backoffDelays run.completeLost
      pure value

/-- The end of `run` when the code of the step failed. -/
def reportFailure {V : Type} (cfg : Config) (run : StepRun V) (stepId : String) (e : KagziError) :
    Call V := do
  let resp ← ((send run.failLost (WorkerService.failStep cfg
    ⟨run.ns, run.runId, stepId, some e.toDetail⟩)).mapError fun s => .kagzi (.ofStatus s))
  match resp with
  | .failStep true => .fail .paused
  | _ => .fail (.kagzi e)

/-- `run`, after the response of `BeginStep`. -/
def proceed {V : Type} (cfg : Config) (codec : Codec V) (run : StepRun V) : Response → Call V
  | .beginStep stepId shouldExecute cachedOutput =>
      let stepId := if stepId = "" then run.name else stepId
      if shouldExecute then
        match run.outcome with
        | .ok value => report cfg codec run stepId value
        | .error e => reportFailure cfg run stepId e.toKagzi
      else
        match codec.fromSlice cachedOutput with
        | some value => .ret value
        | none => .fail .json
  | _ => .fail .json

/-- `StepBuilder::run`. -/
def StepRun.call {V : Type} (cfg : Config) (codec : Codec V) (run : StepRun V) : Call V := do
  let resp ← ((send run.beginLost (WorkerService.beginStep cfg
    ⟨run.ns, run.runId, run.name, 1, none, run.retry⟩)).mapError .status)
  proceed cfg codec run resp

/-! ## Sleeping -/

/-- `std::time::Duration`. -/
structure Duration where
  secs : Nat
  nanos : Nat
  nanos_lt : nanos < 1000000000
deriving DecidableEq

/-- The duration in nanoseconds. -/
def Duration.asNanos (d : Duration) : Nat := d.secs * 1000000000 + d.nanos

/-- A call of `sleep_internal`. -/
structure SleepCall where
  ns : String
  runId : String
  name : String
  duration : Duration
  /-- The response of `BeginStep` is lost. -/
  beginLost : Bool
  /-- The response of `Sleep` is lost. -/
  sleepLost : Bool

/-- The request that begins the sleep. -/
def SleepCall.beginRequest (run : SleepCall) : BeginStepRequest :=
  ⟨run.ns, run.runId, run.name, 2, some [], none⟩

/-- The request that sends the run to sleep. -/
def SleepCall.sleepRequest (run : SleepCall) (stepId : String) : SleepRequest :=
  ⟨run.ns, run.runId, stepId, some ⟨asI64 run.duration.secs, run.duration.nanos⟩⟩

/-- `sleep_internal`.  It returns when the step is completed, and pauses the
workflow when the run was sent to sleep. -/
def SleepCall.call (cfg : Config) (run : SleepCall) : Call Unit := do
  let resp ← (send run.beginLost (WorkerService.beginStep cfg run.beginRequest)).mapError
    fun s => .kagzi (.ofStatus s)
  match resp with
  | .beginStep stepId shouldExecute _ =>
      if shouldExecute then do
        let stepId := if stepId = "" then run.name else stepId
        let _ ← (send run.sleepLost (WorkerService.sleep cfg (run.sleepRequest stepId))).mapError
          fun s => .kagzi (.ofStatus s)
        .fail .paused
      else pure ()
  | _ => .fail .json

/-! ## Executions and the server -/

/-- What runs against the store: a request, or an execution of a step. -/
inductive Traffic (V : Type) where
  | request (req : Request)
  | step (run : StepRun V)

inductive Reply (V : Type) where
  | response (resp : Response)
  /-- The value handed to the workflow code. -/
  | value (v : V)

/-- The server with the executions of steps. -/
def service {V : Type} (cfg : Config) (codec : Codec V) :
    Service Stmt Stmt.Result World Env (Traffic V) StepError (Reply V) :=
  { store with
    spawn := fun
      | .request req => do
          let resp ← (handle cfg req).mapError .status
          pure (.response resp)
      | .step run => do
          let v ← run.call cfg codec
          pure (.value v)
    accepts := fun _ => True }

instance {V : Type} (cfg : Config) (codec : Codec V) :
    DecidablePred (service cfg codec).accepts :=
  fun _ => .isTrue trivial

instance {V : Type} (cfg : Config) (codec : Codec V) (i : Nat) (e : Env) (q : Stmt) (m : Now) :
    Decidable ((service cfg codec).admits i e q m) :=
  inferInstanceAs (Decidable (store.admits i e q m))

end Sdk

end Kagzi
