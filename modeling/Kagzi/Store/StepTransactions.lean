import Kagzi.Logic.ReadCommitted
import Kagzi.Store.Repository

/-!
# The transactions on step runs

`begin`, `complete`, `fail`, `complete_pending_sleeps` and
`record_lifecycle_event` of `postgres/step.rs`, one statement after the other.
`Store/Repository.lean` has the same functions with fewer statements: there the
demotion of the latest attempt and the insertion of the next are one.  Here
every `UPDATE` and every `INSERT` is a statement of a transaction under READ
COMMITTED, and two transactions on one step can overlap anywhere.

A statement on the pool (`.fetch_optional(&self.pool)`) does not see what the
transaction has written.  A lone `UPDATE` on the pool is a transaction of its
own.  Where the code returns without a commit it has written nothing, so that a
commit and a rollback are the same.
-/

namespace Kagzi

open Atomic ReadCommitted

/-- What the statements on `step_runs` read besides that table. -/
structure Surroundings where
  /-- `NOW()`. -/
  now : Int
  /-- `Uuid::now_v7()`. -/
  fresh : Uuid
  /-- A random number: the jitter. -/
  rand : Nat
  /-- `workflow_runs`. -/
  runs : Relational.Table RunRow

/-- Code that runs statements on `step_runs`. -/
abbrev StepCode (α : Type) : Type := Script Surroundings StepRow StoreError α

/-- `COALESCE(MAX(attempt_number), 0) + 1` over the rows a statement sees. -/
def nextAttempt (rows : List StepRow) (runId : Uuid) (stepId : String) : Int :=
  ((rows.filter (StepRow.ofStep runId stepId)).map StepRow.attemptNumber).foldl max 0 + 1

/-- The row of an `INSERT INTO step_runs`.  The sub-selects see what the
statement sees, and without a run the namespace is null, which the column
refuses. -/
def NewStep.compute (step : NewStep) (now : Int) (w : Surroundings) (rows : List StepRow) :
    Option StepRow :=
  (w.runs.get? step.runId).map fun run =>
    step.row run.ns (Kagzi.nextAttempt rows step.runId step.stepId) now

namespace StepTransaction

/-! ## Statements -/

/-- `NOW()`: the time the transaction began. -/
def beginning : StepCode Int := do
  let w ← Script.look
  pure w.now

/-- `Uuid::now_v7()`. -/
def newAttemptId : StepCode Uuid := do
  let w ← Script.look
  pure w.fresh

/-- `SELECT status, output … AND is_latest = true`, in the transaction. -/
def existingStep (runId : Uuid) (stepId : String) : StepCode (Option ExistingStep) := do
  let (_, rows) ← Script.select true (StepRow.isLatestOf runId stepId)
  pure (rows.head?.map fun r => ⟨r.status, r.output⟩)

/-- `latest_step_kind_strict`, on the pool. -/
def latestStepKindStrict (runId : Uuid) (stepId : String) : StepCode StepKind := do
  let (_, rows) ← Script.select false (StepRow.isLatestOf runId stepId)
  match rows.head? with
  | some r => pure (if r.stepKind = .sleep then .sleep else .function)
  | none => .fail (.notFound "step_run" (toString runId ++ ":" ++ stepId))

/-- `get_retry_info`, on the pool: the latest attempt joined with its run. -/
def getRetryInfo (runId : Uuid) (stepId : String) : StepCode (Option StepRetryInfo) := do
  let (w, rows) ← Script.select false (StepRow.isLatestOf runId stepId)
  pure ((w.runs.get? runId).bind fun run => rows.head?.map fun r =>
    ⟨r.attemptNumber, readPolicy (r.retryPolicy.or run.retryPolicy)⟩)

/-- `UPDATE … SET is_latest = false … AND is_latest = true`. -/
def demoteLatest (runId : Uuid) (stepId : String) : StepCode Unit := do
  let _ ← Script.update (StepRow.isLatestOf runId stepId) StepRow.demote

/-- `INSERT INTO step_runs`. -/
def insertAttempt (now : Int) (step : NewStep) : StepCode Unit :=
  Script.insert (step.compute now)

/-- The demotion of the latest attempt and the insertion of the next. -/
def replaceLatest (now : Int) (step : NewStep) : StepCode Unit := do
  demoteLatest step.runId step.stepId
  let attemptId ← newAttemptId
  insertAttempt now { step with attemptId := attemptId }

/-! ## Functions -/

/-- `begin`. -/
def begin (max : Nat) (params : BeginStepParams) : StepCode BeginStepResult := do
  let now ← beginning
  .ofExcept (validateOptionalSize max params.input "Step input")
  match ← existingStep params.runId params.stepId with
  | some ⟨.completed, output⟩ => pure ⟨false, output⟩
  | _ =>
      replaceLatest now (StepRepository.beginRow params 0)
      pure ⟨true, none⟩

/-- `complete`. -/
def complete (max : Nat) (runId : Uuid) (stepId : String) (output : Bytes) : StepCode Unit := do
  let now ← beginning
  .ofExcept (validatePayloadSize max output "Step output")
  let stepKind ← latestStepKindStrict runId stepId
  let affected ← Script.update (StepRow.isRunningOf runId stepId) (StepRow.complete output now)
  if affected = 0 then
    match ← existingStep runId stepId with
    | some ⟨.completed, _⟩ => pure ()
    | _ =>
        replaceLatest now
          (StepRepository.resultRow runId stepId stepKind .completed (some output) none 0)
  else pure ()

/-- The end of `fail` when no retry is scheduled. -/
def failForGood (params : FailStepParams) : StepCode FailStepResult := do
  let now ← beginning
  let stepKind ← latestStepKindStrict params.runId params.stepId
  let affected ← Script.update (StepRow.isRunningOf params.runId params.stepId)
    (StepRow.fail params.error now)
  if affected = 0 then
    replaceLatest now
      (StepRepository.resultRow params.runId params.stepId stepKind .failed none
        (some params.error) 0)
    pure ⟨false, none⟩
  else pure ⟨false, none⟩

/-- The delay of a retry: the requested one, else that of the policy. -/
def retryDelayMs (params : FailStepParams) (policy : RetryPolicy) (attemptNumber : Int) :
    StepCode Int :=
  match params.retryAfterMs with
  | some ms => pure ms
  | none => do
      let w ← Script.look
      pure (policy.calculateDelayMs attemptNumber w.rand)

/-- `fail`.  What it reads before its transaction it reads on the pool, and the
`UPDATE` of the retry branch is a transaction of its own. -/
def fail (params : FailStepParams) : StepCode FailStepResult := do
  match ← getRetryInfo params.runId params.stepId with
  | none => failForGood params
  | some info =>
      let policy := info.retryPolicy.getD .default
      if StepRepository.shouldRetry params policy info.attemptNumber then
        let delayMs ← retryDelayMs params policy info.attemptNumber
        let now ← beginning
        let _ ← Script.update (StepRow.isLatestOf params.runId params.stepId)
          (StepRow.fail params.error now)
        pure ⟨true, some (asU64 delayMs)⟩
      else failForGood params

/-- `complete_pending_sleeps`. -/
def completePendingSleeps (runId : Uuid) : StepCode Nat := do
  let now ← beginning
  Script.update
    (fun r => r.runId = runId && r.stepKind = .sleep && r.status = .running && r.isLatest)
    (StepRow.wake now)

/-- `step_kind.as_ref()`. -/
def stepKindText : StepKind → String
  | .function => "FUNCTION"
  | .sleep => "SLEEP"
  | .workflowStarted => "WORKFLOW_STARTED"
  | .workflowCompleted => "WORKFLOW_COMPLETED"
  | .workflowFailed => "WORKFLOW_FAILED"
  | .workflowCancelled => "WORKFLOW_CANCELLED"

/-- The step kinds of lifecycle events. -/
def isLifecycle : StepKind → Bool
  | .workflowStarted | .workflowCompleted | .workflowFailed | .workflowCancelled => true
  | _ => false

/-- `record_lifecycle_event`. -/
def recordLifecycleEvent (max : Nat) (utf8 : Bytes → Option String) (runId : Uuid)
    (stepKind : StepKind) (output : Option Bytes) : StepCode Unit := do
  if isLifecycle stepKind then
    let stepId := StepRepository.lifecycleStepId stepKind
    .ofExcept (validateOptionalSize max output "Lifecycle output")
    let status := if stepKind = .workflowFailed then StepStatus.failed else .completed
    let error := StepRepository.lifecycleError utf8 stepKind output
    let now ← beginning
    let affected ← Script.update (StepRow.isLatestOf runId stepId)
      (StepRow.record status output error now)
    if affected = 0 then
      let row := StepRepository.resultRow runId stepId stepKind status output error 0
      replaceLatest now { row with started := true }
    else pure ()
  else .fail (.invalidArgument ("Invalid lifecycle step_kind: " ++ stepKindText stepKind))

end StepTransaction

/-! ## Calls -/

/-- A call of one of the functions. -/
inductive StepCall where
  | begin (params : BeginStepParams)
  | complete (runId : Uuid) (stepId : String) (output : Bytes)
  | fail (params : FailStepParams)
  | completePendingSleeps (runId : Uuid)
  | recordLifecycleEvent (runId : Uuid) (stepKind : StepKind) (output : Option Bytes)

/-- What a call returns. -/
inductive StepReply where
  | begun (result : BeginStepResult)
  | failed (result : FailStepResult)
  | woken (count : Nat)
  | done

/-- The code of a call. -/
def StepCall.code (max : Nat) (utf8 : Bytes → Option String) : StepCall → StepCode StepReply
  | .begin params => do
      return .begun (← StepTransaction.begin max params)
  | .complete runId stepId output => do
      StepTransaction.complete max runId stepId output
      return .done
  | .fail params => do
      return .failed (← StepTransaction.fail params)
  | .completePendingSleeps runId => do
      return .woken (← StepTransaction.completePendingSleeps runId)
  | .recordLifecycleEvent runId stepKind output => do
      StepTransaction.recordLifecycleEvent max utf8 runId stepKind output
      return .done

/-- The code that the store runs. -/
def stepCode (max : Nat) (utf8 : Bytes → Option String) (code : StepCode StepReply) : Prop :=
  ∃ call : StepCall, call.code max utf8 = code

end Kagzi
