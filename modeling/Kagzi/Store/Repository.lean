import Kagzi.Store.Statement

/-!
# The repositories

The functions of the store that take more than one statement, or that check a
payload before they write.  Between two statements of one of them, statements of
other requests may run.
-/

namespace Kagzi

open Atomic

/-! ## Payload sizes -/

/-- `validate_payload_size`, for the maximum `payload_max_size_bytes`. -/
def validatePayloadSize (max : Nat) (bytes : Bytes) (context : String) : Except StoreError Unit :=
  if bytes.length > max then
    .error (.invalidArgument (context ++ " exceeds maximum size of " ++ toString max ++ " bytes ("
      ++ toString bytes.length ++ " bytes). Do not use Kagzi for blob storage."))
  else .ok ()

/-- `validate_payload_size` on a payload that may be missing. -/
def validateOptionalSize (max : Nat) (bytes : Option Bytes) (context : String) :
    Except StoreError Unit :=
  match bytes with
  | some bytes => validatePayloadSize max bytes context
  | none => .ok ()

/-! ## Workflow runs -/

namespace WorkflowRepository

/-- `create`. -/
def create (max : Nat) (params : CreateWorkflow) : Store Uuid := do
  .ofExcept (validatePayloadSize max params.input "Workflow input")
  sql (.createWorkflow params)

/-- `cancel`: first a running run, then one that waits. -/
def cancel (runId : Uuid) (ns : String) : Store Bool := do
  if ← sql (.cancelRunning runId ns) then pure true
  else sql (.cancelWaiting runId ns)

/-- `complete`.  The output is written whether or not the run was running. -/
def complete (max : Nat) (runId : Uuid) (output : Bytes) : Store Unit := do
  .ofExcept (validatePayloadSize max output "Workflow output")
  if ← sql (.completeRun runId output) then pure ()
  else sql (.setOutput runId output)

/-- `fail`. -/
def fail (runId : Uuid) (error : String) : Store Unit := do
  let _ ← sql (.setFailed runId error)

/-- `schedule_sleep`. -/
def scheduleSleep (runId : Uuid) (durationSecs : Nat) : Store Unit := do
  let _ ← sql (.scheduleSleep runId durationSecs)

/-- `schedule_retry`. -/
def scheduleRetry (runId : Uuid) (delayMs : Nat) : Store Unit := do
  let _ ← sql (.scheduleRetry runId delayMs)

/-- `delete`. -/
def delete (runId : Uuid) : Store Unit := do
  sql (.deletePayload runId)
  sql (.deleteRun runId)

end WorkflowRepository

/-! ## Step runs -/

structure BeginStepParams where
  runId : Uuid
  stepId : String
  stepKind : StepKind
  input : Option Bytes
  retryPolicy : Option ProtoPolicy
deriving DecidableEq

structure BeginStepResult where
  shouldExecute : Bool
  cachedOutput : Option Bytes
deriving DecidableEq

structure FailStepParams where
  runId : Uuid
  stepId : String
  error : String
  nonRetryable : Bool
  retryAfterMs : Option Int
deriving DecidableEq

structure FailStepResult where
  scheduledRetry : Bool
  scheduleWorkflowRetryMs : Option Nat
deriving DecidableEq

namespace StepRepository

/-- The demotion of the latest attempt and the insertion of a new one. -/
def replaceLatest (step : NewStep) : Store Unit := do
  if ← sql (.supersede step) then pure ()
  else sql (.insertStep step)

/-- `latest_step_kind_strict`. -/
def latestStepKindStrict (runId : Uuid) (stepId : String) : Store StepKind := do
  match ← sql (.latestStepKind runId stepId) with
  | some kind => pure kind
  | none => .fail (.notFound "step_run" (toString runId ++ ":" ++ stepId))

/-- The attempt `begin` inserts. -/
def beginRow (params : BeginStepParams) (attemptId : Uuid) : NewStep :=
  { attemptId := attemptId
    runId := params.runId
    stepId := params.stepId
    stepKind := params.stepKind
    status := .running
    input := params.input
    output := none
    error := none
    started := true
    finished := false
    retryPolicy := params.retryPolicy.map ProtoPolicy.toValue }

/-- The attempt `insert_step_result` inserts. -/
def resultRow (runId : Uuid) (stepId : String) (stepKind : StepKind) (status : StepStatus)
    (output : Option Bytes) (error : Option String) (attemptId : Uuid) : NewStep :=
  { attemptId := attemptId
    runId := runId
    stepId := stepId
    stepKind := stepKind
    status := status
    input := none
    output := output
    error := error
    started := false
    finished := true
    retryPolicy := none }

/-- `begin`.  The output of a completed step is returned, and any other latest
attempt is superseded by a running one. -/
def begin (max : Nat) (params : BeginStepParams) : Store BeginStepResult := do
  .ofExcept (validateOptionalSize max params.input "Step input")
  match ← sql (.latestStep params.runId params.stepId) with
  | some ⟨.completed, output⟩ => pure ⟨false, output⟩
  | _ =>
      let attemptId ← sql .newUuid
      replaceLatest (beginRow params attemptId)
      pure ⟨true, none⟩

/-- `complete`.  A running attempt is completed in place.  A step that is
completed already is left alone, and any other is superseded. -/
def complete (max : Nat) (runId : Uuid) (stepId : String) (output : Bytes) : Store Unit := do
  .ofExcept (validatePayloadSize max output "Step output")
  let stepKind ← latestStepKindStrict runId stepId
  if ← sql (.completeRunningStep runId stepId output) then pure ()
  else
    match ← sql (.latestStep runId stepId) with
    | some ⟨.completed, _⟩ => pure ()
    | _ =>
        let attemptId ← sql .newUuid
        replaceLatest (resultRow runId stepId stepKind .completed (some output) none attemptId)

/-- The condition under which `fail` schedules a retry of the workflow. -/
def shouldRetry (params : FailStepParams) (policy : RetryPolicy) (attemptNumber : Int) : Bool :=
  !params.nonRetryable && !policy.isNonRetryable params.error && policy.shouldRetry attemptNumber

/-- The delay of a retry: the requested one, else that of the policy. -/
def retryDelayMs (params : FailStepParams) (policy : RetryPolicy) (attemptNumber : Int) :
    Store Int :=
  match params.retryAfterMs with
  | some ms => pure ms
  | none => do
      let rand ← sql .random
      pure (policy.calculateDelayMs attemptNumber rand)

/-- The end of `fail` when no retry is scheduled. -/
def failForGood (params : FailStepParams) : Store FailStepResult := do
  let stepKind ← latestStepKindStrict params.runId params.stepId
  if ← sql (.failRunningStep params.runId params.stepId params.error) then pure ⟨false, none⟩
  else
    let attemptId ← sql .newUuid
    replaceLatest
      (resultRow params.runId params.stepId stepKind .failed none (some params.error) attemptId)
    pure ⟨false, none⟩

/-- `fail`.  A retry that is scheduled marks the latest attempt failed, whatever
its status. -/
def fail (params : FailStepParams) : Store FailStepResult := do
  match ← sql (.getRetryInfo params.runId params.stepId) with
  | none => failForGood params
  | some info =>
      let policy := info.retryPolicy.getD .default
      if shouldRetry params policy info.attemptNumber then
        let delayMs ← retryDelayMs params policy info.attemptNumber
        sql (.failLatestStep params.runId params.stepId params.error)
        pure ⟨true, some (asU64 delayMs)⟩
      else failForGood params

/-- The step id of a lifecycle event. -/
def lifecycleStepId (stepKind : StepKind) : String := "__lifecycle:" ++ stepKind.lowercase

/-- The error column of a lifecycle event: the text of a failure.  `utf8` is
`String::from_utf8`. -/
def lifecycleError (utf8 : Bytes → Option String) (stepKind : StepKind) (output : Option Bytes) :
    Option String :=
  match stepKind with
  | .workflowFailed => output.bind utf8
  | _ => none

/-- `record_lifecycle_event`, for one of the four lifecycle kinds. -/
def recordLifecycleEvent (max : Nat) (utf8 : Bytes → Option String) (runId : Uuid)
    (stepKind : StepKind) (output : Option Bytes) : Store Unit := do
  .ofExcept (validateOptionalSize max output "Lifecycle output")
  let stepId := lifecycleStepId stepKind
  let status := if stepKind = .workflowFailed then StepStatus.failed else .completed
  let error := lifecycleError utf8 stepKind output
  if ← sql (.recordLatestStep runId stepId status output error) then pure ()
  else
    let attemptId ← sql .newUuid
    let row := resultRow runId stepId stepKind status output error attemptId
    replaceLatest { row with started := true }

end StepRepository

/-! ## Namespaces -/

namespace NamespaceRepository

/-- `get_or_create`. -/
def getOrCreate (name : String) : Store Unit := do
  match ← sql (.findNamespace name) with
  | some _ => pure ()
  | none =>
      let now ← sql .utcNow
      sql (.upsertNamespace name now)

/-- `enable`. -/
def enable (name : String) : Store Bool := do
  let now ← sql .utcNow
  sql (.setNamespaceEnabled name true now)

/-- `disable`. -/
def disable (name : String) : Store Bool := do
  let now ← sql .utcNow
  sql (.setNamespaceEnabled name false now)

end NamespaceRepository

end Kagzi
