import Kagzi.Store.Workflow

/-!
# Statements on step runs

The SQL of `postgres/step.rs`.  The transactions of `begin`, `complete`, `fail`
and `record_lifecycle_event` end in the same two statements: the `UPDATE` that
takes `is_latest` from the latest attempt and the `INSERT` of a new one.  The
`UPDATE` locks the attempt it hits until the commit, and the unique index keeps
every other transaction from inserting a latest attempt meanwhile, so the two
are one statement here (`supersede`).  When the `UPDATE` hits nothing there is
no lock, and the `INSERT` is a statement of its own (`insertStep`), which the
unique index can refuse.
-/

namespace Kagzi

open Relational

/-! ## Answers -/

/-- `ExistingStepRow`. -/
structure ExistingStep where
  status : StepStatus
  output : Option Bytes
deriving DecidableEq

structure StepRetryInfo where
  attemptNumber : Int
  retryPolicy : Option RetryPolicy
deriving DecidableEq

/-- What an `INSERT INTO step_runs` gives; the other columns are computed. -/
structure NewStep where
  attemptId : Uuid
  runId : Uuid
  stepId : String
  stepKind : StepKind
  status : StepStatus
  input : Option Bytes
  output : Option Bytes
  error : Option String
  /-- `started_at` is set to `NOW()`. -/
  started : Bool
  /-- `finished_at` is set to `NOW()`. -/
  finished : Bool
  retryPolicy : Option StoredPolicy
deriving DecidableEq

namespace StepRow

/-- The row belongs to the step. -/
def ofStep (runId : Uuid) (stepId : String) (r : StepRow) : Bool :=
  r.runId = runId && r.stepId = stepId

/-- The row is the latest attempt of the step. -/
def isLatestOf (runId : Uuid) (stepId : String) (r : StepRow) : Bool :=
  r.runId = runId && r.stepId = stepId && r.isLatest

/-- The row is the latest attempt of the step and has the status RUNNING. -/
def isRunningOf (runId : Uuid) (stepId : String) (r : StepRow) : Bool :=
  r.isLatestOf runId stepId && r.status = .running

/-- `SET is_latest = false`. -/
def demote (r : StepRow) : StepRow := { r with isLatest := false }

/-- `SET status = 'COMPLETED', output = $3, finished_at = NOW()`. -/
def complete (output : Bytes) (now : Int) (r : StepRow) : StepRow :=
  { r with status := .completed, output := some output, finishedAt := some now }

/-- `SET status = 'FAILED', error = $3, finished_at = NOW()`. -/
def fail (error : String) (now : Int) (r : StepRow) : StepRow :=
  { r with status := .failed, error := some error, finishedAt := some now }

/-- `SET status = 'COMPLETED', finished_at = NOW()`. -/
def wake (now : Int) (r : StepRow) : StepRow :=
  { r with status := .completed, finishedAt := some now }

/-- The `SET` clause of `record_lifecycle_event`. -/
def record (status : StepStatus) (output : Option Bytes) (error : Option String) (now : Int)
    (r : StepRow) : StepRow :=
  { r with
    status := status
    output := output
    error := error
    finishedAt := some now
    startedAt := some (r.startedAt.getD now) }

end StepRow

/-! ## Writing back -/

/-- Update the steps that satisfy `p` and answer `a`. -/
def Db.commitSteps {α : Type} (db : Db) (p : StepRow → Bool) (f : StepRow → StepRow) (a : α) :
    Except StoreError α × Db :=
  match db.steps.update? p f with
  | some steps => (.ok a, { db with steps := steps })
  | none => (.error (violation false), db)

/-- `COALESCE(MAX(attempt_number), 0) + 1` over the attempts of the step. -/
def Db.nextAttempt (db : Db) (runId : Uuid) (stepId : String) : Int :=
  ((db.steps.rows.filter (StepRow.ofStep runId stepId)).map StepRow.attemptNumber).foldl max 0 + 1

/-- The row an `INSERT INTO step_runs` makes.  The namespace is that of the
run. -/
def NewStep.row (step : NewStep) (ns : String) (attemptNumber : Int) (now : Int) : StepRow :=
  { attemptId := step.attemptId
    runId := step.runId
    stepId := step.stepId
    ns := ns
    status := step.status
    output := step.output
    error := step.error
    createdAt := some now
    startedAt := if step.started then some now else none
    finishedAt := if step.finished then some now else none
    retryPolicy := step.retryPolicy
    attemptNumber := attemptNumber
    isLatest := true
    input := step.input
    stepKind := step.stepKind }

/-- Insert a latest attempt.  Without a run of that id the namespace is null,
which the column refuses. -/
def Db.insertStep (db : Db) (step : NewStep) (now : Int) : Except StoreError Db :=
  match db.run step.runId with
  | none => .error .database
  | some r =>
      match db.steps.insert? (step.row r.ns (db.nextAttempt step.runId step.stepId) now) with
      | none => .error (violation false)
      | some steps => .ok { db with steps := steps }

/-! ## Reading -/

/-- `SELECT status, output … AND is_latest = true`. -/
def latestStep (runId : Uuid) (stepId : String) : Sql (Option ExistingStep) := fun _ db =>
  (.ok ((db.latest runId stepId).map fun r => ⟨r.status, r.output⟩), db)

/-- The query of `latest_step_kind_strict`. -/
def latestStepKind (runId : Uuid) (stepId : String) : Sql (Option StepKind) := fun _ db =>
  (.ok ((db.latest runId stepId).map fun r =>
    if r.stepKind = .sleep then .sleep else .function), db)

/-- `get_retry_info`: the policy of the step, else that of its run, if it can be read. -/
def getRetryInfo (runId : Uuid) (stepId : String) : Sql (Option StepRetryInfo) := fun _ db =>
  (.ok ((db.run runId).bind fun w => (db.latest runId stepId).map fun r =>
    ⟨r.attemptNumber, readPolicy (r.retryPolicy.or w.retryPolicy)⟩), db)

/-- `list` with a step id, a page size and no cursor: the oldest attempts
first, and one more than the page holds. -/
def listSteps (runId : Uuid) (ns stepId : String) (pageSize : Int) : Sql (List StepRow) :=
  fun _ db =>
    let rows := db.steps.rows.filter fun r => r.ofStep runId stepId && r.ns = ns
    let sorted := rows.insertionSort fun a b =>
      a.createdAt.getD 0 < b.createdAt.getD 0 ∨
        (a.createdAt.getD 0 = b.createdAt.getD 0 ∧ a.attemptId ≤ b.attemptId)
    (.ok (sorted.take ((max pageSize 1).toNat + 1)), db)

/-! ## Writing -/

/-- Demote the latest attempt and insert a new one, when there is a latest
attempt to demote.  The answer says whether there was. -/
def supersede (step : NewStep) : Sql Bool := fun e db =>
  if (db.latest step.runId step.stepId).isSome then
    match db.steps.update? (StepRow.isLatestOf step.runId step.stepId) StepRow.demote with
    | none => (.error (violation false), db)
    | some steps =>
        match { db with steps := steps }.insertStep step e.began with
        | .ok db' => (.ok true, db')
        | .error x => (.error x, db)
  else (.ok false, db)

/-- Insert a latest attempt of a step that had none. -/
def insertStep (step : NewStep) : Sql Unit := fun e db =>
  match db.insertStep step e.began with
  | .ok db' => (.ok (), db')
  | .error x => (.error x, db)

/-- The guarded `UPDATE` of `complete`. -/
def completeRunningStep (runId : Uuid) (stepId : String) (output : Bytes) : Sql Bool := fun e db =>
  let p := StepRow.isRunningOf runId stepId
  db.commitSteps p (StepRow.complete output e.began) (db.steps.rows.any p)

/-- The guarded `UPDATE` of `fail`. -/
def failRunningStep (runId : Uuid) (stepId : String) (error : String) : Sql Bool := fun e db =>
  let p := StepRow.isRunningOf runId stepId
  db.commitSteps p (StepRow.fail error e.began) (db.steps.rows.any p)

/-- The `UPDATE` of the retry branch of `fail`, which does not look at the
status. -/
def failLatestStep (runId : Uuid) (stepId : String) (error : String) : Sql Unit := fun e db =>
  db.commitSteps (StepRow.isLatestOf runId stepId) (StepRow.fail error e.now) ()

/-- `complete_pending_sleeps`. -/
def completePendingSleeps (runId : Uuid) : Sql Nat := fun e db =>
  let p : StepRow → Bool := fun r =>
    r.runId = runId && r.stepKind = .sleep && r.status = .running && r.isLatest
  db.commitSteps p (StepRow.wake e.now) (db.steps.rows.countP p)

/-- The `UPDATE` of `record_lifecycle_event`. -/
def recordLatestStep (runId : Uuid) (stepId : String) (status : StepStatus) (output : Option Bytes)
    (error : Option String) : Sql Bool := fun e db =>
  let p := StepRow.isLatestOf runId stepId
  db.commitSteps p (StepRow.record status output error e.began) (db.steps.rows.any p)

end Kagzi
