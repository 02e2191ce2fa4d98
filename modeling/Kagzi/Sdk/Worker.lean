import Kagzi.Sdk.Context

/-!
# Workflows in the worker SDK

`poll_and_execute` and `execute_workflow` of the SDK's `worker.rs`.  The code of a
workflow is a tree (`WorkflowCode`): it calls steps and sleeps one after the other, looks
at what each of them gives, and ends with a value or an error.  A panic is an
error, as it is for `execute_workflow`.

The calls of a context are those of `Context.lean`.  Here their errors carry where
they come from (`Cause`), which the errors of the SDK do not: an error of a request
and the error of a step that failed for good are both a `KagziError`
(`StepRun.perform_error`).
-/

namespace Kagzi

open Atomic

namespace Sdk

/-! ## Errors of a context -/

/-- An error that a call of the context gives to the workflow code, with where it
comes from. -/
inductive Cause where
  /-- A request was lost, or was answered with an error. -/
  | rpc (e : StepError)
  /-- A value cannot be written, or not be read. -/
  | json
  /-- The code of the step failed, and `FailStep` has scheduled no retry. -/
  | own (e : KagziError)
  | paused
deriving DecidableEq

/-- The error itself. -/
def Cause.error : Cause → StepError
  | .rpc e => e
  | .json => .json
  | .own e => .kagzi e
  | .paused => .paused

/-- Where an error comes from when no step has failed. -/
def Cause.ofError : StepError → Cause
  | .json => .json
  | .paused => .paused
  | e => .rpc e

theorem Cause.error_ofError (e : StepError) : (Cause.ofError e).error = e := by
  cases e <;> rfl

abbrev Traced (α : Type) := Prog Stmt Stmt.Result Cause α

/-- `reportFailure`, with the causes of its errors. -/
def reportFailureTraced {V : Type} (cfg : Config) (run : StepRun V) (stepId : String)
    (e : KagziError) : Traced V := do
  let resp ← ((send run.failLost (WorkerService.failStep cfg
    ⟨run.ns, run.runId, stepId, some e.toDetail⟩)).mapError fun s => .rpc (.kagzi (.ofStatus s)))
  match resp with
  | .failStep true => .fail .paused
  | _ => .fail (.own e)

/-- `proceed`, with the causes of its errors. -/
def proceedTraced {V : Type} (cfg : Config) (codec : Codec V) (run : StepRun V) :
    Response → Traced V
  | .beginStep stepId shouldExecute cachedOutput =>
      let stepId := if stepId = "" then run.name else stepId
      if shouldExecute then
        match run.outcome with
        | .ok value => (report cfg codec run stepId value).mapError .ofError
        | .error e => reportFailureTraced cfg run stepId e.toKagzi
      else
        match codec.fromSlice cachedOutput with
        | some value => .ret value
        | none => .fail .json
  | _ => .fail .json

/-- `StepBuilder::run`, with the causes of its errors. -/
def StepRun.perform {V : Type} (cfg : Config) (codec : Codec V) (run : StepRun V) : Traced V := do
  let resp ← ((send run.beginLost (WorkerService.beginStep cfg
    ⟨run.ns, run.runId, run.name, 1, none, run.retry⟩)).mapError fun s => .rpc (.status s))
  proceedTraced cfg codec run resp

/-- `sleep_internal`, with the causes of its errors. -/
def SleepCall.perform (cfg : Config) (run : SleepCall) : Traced Unit :=
  (run.call cfg).mapError .ofError

section Causes
variable {V : Type} {cfg : Config} {codec : Codec V} {run : StepRun V}

theorem mapError_ofError {α : Type} (p : Call α) : (p.mapError Cause.ofError).mapError Cause.error = p := by
  rw [Prog.mapError_mapError]
  exact Prog.mapError_id p Cause.error_ofError

theorem reportFailureTraced_error (stepId : String) (e : KagziError) :
    (reportFailureTraced cfg run stepId e).mapError Cause.error = reportFailure cfg run stepId e := by
  unfold reportFailureTraced reportFailure
  rw [Prog.mapError_bind, Prog.mapError_mapError]
  congr 1
  funext resp
  cases resp with
  | failStep scheduledRetry => cases scheduledRetry <;> rfl
  | _ => rfl

theorem proceedTraced_error (resp : Response) :
    (proceedTraced cfg codec run resp).mapError Cause.error = proceed cfg codec run resp := by
  cases resp with
  | beginStep stepId shouldExecute cachedOutput =>
      cases shouldExecute with
      | true =>
          simp only [proceedTraced, proceed, if_true]
          cases run.outcome with
          | ok value => exact mapError_ofError _
          | error e => exact reportFailureTraced_error _ _
      | false =>
          simp only [proceedTraced, proceed, Bool.false_eq_true, if_false]
          cases codec.fromSlice cachedOutput <;> rfl
  | _ => rfl

/-- Without the causes it is `StepRun.call`. -/
theorem StepRun.perform_error :
    (run.perform cfg codec).mapError Cause.error = run.call cfg codec := by
  unfold StepRun.perform StepRun.call
  rw [Prog.mapError_bind, Prog.mapError_mapError]
  congr 1
  funext resp
  exact proceedTraced_error resp

theorem SleepCall.perform_error (run : SleepCall) :
    (run.perform cfg).mapError Cause.error = run.call cfg :=
  mapError_ofError _

end Causes

/-! ## Workflow code -/

/-- The error a workflow ends with: one of its context, or one of its own. -/
inductive WorkflowError where
  | context (x : Cause)
  | own (e : Failure)
deriving DecidableEq

/-- The context of an execution. -/
structure Context where
  ns : String
  runId : String
  defaultRetry : Option ProtoPolicy
deriving DecidableEq

/-- A step of the context. -/
def StepRun.within {V : Type} (run : StepRun V) (ctx : Context) : StepRun V :=
  { run with ns := ctx.ns, runId := ctx.runId, retry := run.retry.or ctx.defaultRetry }

/-- A sleep of the context. -/
def SleepCall.within (run : SleepCall) (ctx : Context) : SleepCall :=
  { run with ns := ctx.ns, runId := ctx.runId }

/-- What the code of a workflow does, from here on.  The namespace and the run of its
calls are those of the context. -/
inductive WorkflowCode (V : Type) where
  | ok (output : V)
  | err (e : WorkflowError)
  | step (run : StepRun V) (next : Except Cause V → WorkflowCode V)
  | sleep (run : SleepCall) (next : Except Cause Unit → WorkflowCode V)

namespace WorkflowCode
variable {V : Type}

/-- Run the code. -/
def run (cfg : Config) (codec : Codec V) (ctx : Context) :
    WorkflowCode V → Prog Stmt Stmt.Result WorkflowError V
  | .ok output => .ret output
  | .err e => .fail e
  | .step s next => do
      let r ← ((s.within ctx).perform cfg codec).attempt
      (next r).run cfg codec ctx
  | .sleep s next => do
      let r ← ((s.within ctx).perform cfg).attempt
      (next r).run cfg codec ctx

/-- The code can come to call this step. -/
inductive Calls (s : StepRun V) : WorkflowCode V → Prop where
  | here {next : Except Cause V → WorkflowCode V} : Calls s (.step s next)
  | afterStep {s' : StepRun V} {next : Except Cause V → WorkflowCode V} (r : Except Cause V) :
      Calls s (next r) → Calls s (.step s' next)
  | afterSleep {s' : SleepCall} {next : Except Cause Unit → WorkflowCode V} (r : Except Cause Unit) :
      Calls s (next r) → Calls s (.sleep s' next)

/-- The code hands on every error of its context, as `?` does, and fails for no other
reason. -/
def Propagates : WorkflowCode V → Prop
  | .ok _ => True
  | .err _ => False
  | .step _ next =>
      (∀ v, (next (.ok v)).Propagates) ∧ ∀ x, next (.error x) = .err (.context x)
  | .sleep _ next =>
      (next (.ok ())).Propagates ∧ ∀ x, next (.error x) = .err (.context x)

end WorkflowCode

/-! ## Executions -/

/-- How JSON is written and read, and the texts of the errors of other crates. -/
structure Json (V : Type) extends Codec V where
  null : V
  /-- `to_string` of an error that is none of the SDK. -/
  display : StepError → String

/-- The error that is reported: the one of the SDK, or an internal one with the
text. -/
def WorkflowError.toKagzi (display : StepError → String) : WorkflowError → KagziError
  | .own e => e.toKagzi
  | .context x =>
      match x.error with
      | .kagzi e => e
      | e => .new .internal (display e)

/-- A call of `execute_workflow`. -/
structure Execution (V : Type) where
  ctx : Context
  code : WorkflowCode V
  /-- Whether the request that reports the end is lost, for each end. -/
  reportLost : Except WorkflowError V → Bool

section Executions
variable {V : Type}

/-- The end of `execute_workflow`.  The answer of the server is ignored. -/
def Execution.report (cfg : Config) (json : Json V) (run : Execution V) :
    Except WorkflowError V → Call Unit
  | .ok output =>
      match json.toVec output with
      | none => .ret ()
      | some data => do
          let _ ← (send (run.reportLost (.ok output)) (WorkerService.completeWorkflow cfg
            ⟨run.ctx.ns, run.ctx.runId, some data⟩)).attempt
          pure ()
  | .error e =>
      if e = .context .paused then .ret ()
      else do
        let _ ← (send (run.reportLost (.error e)) (WorkerService.failWorkflow cfg
          ⟨run.ctx.ns, run.ctx.runId, some (e.toKagzi json.display).toDetail⟩)).attempt
        pure ()

/-- `execute_workflow`. -/
def Execution.call (cfg : Config) (json : Json V) (run : Execution V) : Call Unit := do
  let r ← (run.code.run cfg json.toCodec run.ctx).attempt
  run.report cfg json r

/-! ## Polling -/

/-- A call of `poll_and_execute`, of a worker that is registered. -/
structure PollCall (V : Type) where
  ns : String
  taskQueue : String
  workerId : String
  /-- The handlers, by the name of their workflow type. -/
  workflows : List (String × (V → WorkflowCode V))
  defaultRetry : Option ProtoPolicy
  /-- How often the server waits for a notification. -/
  waits : Nat
  /-- Whether the response of `PollTask` is lost, for each response. -/
  responseLost : Response → Bool
  reportLost : Except WorkflowError V → Bool

/-- The request of the poll. -/
def PollCall.request (run : PollCall V) : PollTaskRequest :=
  ⟨run.taskQueue, run.workerId, run.ns, run.workflows.map Prod.fst⟩

/-- The execution of the workflow that a response carries. -/
def PollCall.execution (run : PollCall V) (json : Json V) (runId : String) (input : Payload)
    (handler : V → WorkflowCode V) : Execution V :=
  { ctx := ⟨run.ns, runId, run.defaultRetry⟩
    code := handler ((json.fromSlice input).getD json.null)
    reportLost := run.reportLost }

/-- `poll_and_execute`, after the response.  A workflow type without a handler is
logged only. -/
def PollCall.accept (cfg : Config) (json : Json V) (run : PollCall V) : Response → Call Unit
  | .pollTask runId workflowType input =>
      if runId = "" then .ret ()
      else
        match run.workflows.lookup workflowType with
        | some handler => (run.execution json runId input handler).call cfg json
        | none => .ret ()
  | _ => .ret ()

/-- `poll_and_execute`.  An error of the poll is logged only. -/
def PollCall.call (cfg : Config) (json : Json V) (run : PollCall V) : Call Unit := do
  match ← (WorkerService.pollTask cfg run.request run.waits).attempt with
  | .ok resp => if run.responseLost resp then .ret () else run.accept cfg json resp
  | .error _ => .ret ()

end Executions

end Sdk

end Kagzi
