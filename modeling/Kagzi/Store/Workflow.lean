import Mathlib.Data.List.Sort
import Kagzi.Store.Models

/-!
# Statements on workflow runs

The SQL of `postgres/workflow` (`state.rs`, `queue.rs`, `helpers.rs`).  What an
`UPDATE` sets is a function on rows (`RunRow.claim`, `RunRow.sleep`, …), and the
statement applies it where its `WHERE` clause holds.  The answer of an `UPDATE`
with a `RETURNING` clause says whether it hit a row.

A transaction of the source is one statement here when everything after its
first write is invisible to others until the commit.  So `create` inserts the
run and its payload at once, and `complete` sets the status and the output at
once when it hits.  When the `UPDATE` of `complete` misses it holds no lock, and
the write of the output is a statement of its own (`setOutput`).
-/

namespace Kagzi

open Relational

/-! ## Answers -/

/-- `WorkflowRun`: a row joined with its payload. -/
structure WorkflowRun extends RunRow where
  input : Bytes
  output : Option Bytes
deriving DecidableEq

structure CreateWorkflow where
  runId : Uuid
  externalId : String
  taskQueue : String
  workflowType : String
  input : Bytes
  ns : String
  version : String
  retryPolicy : Option ProtoPolicy
  cronExpr : Option String
  scheduleId : Option Uuid
deriving DecidableEq

structure ClaimedWorkflow where
  runId : Uuid
  workflowType : String
  input : Bytes
  lockedBy : Option String
deriving DecidableEq

structure WorkflowExistsResult where
  exists? : Bool
  status : Option WorkflowStatus
  lockedBy : Option String
deriving DecidableEq

/-! ## What the updates set -/

namespace RunRow

/-- `poll_workflow`. -/
def claim (workerId : String) (visibilityTimeoutSecs : Int) (now : Int) (r : RunRow) : RunRow :=
  { r with
    status := .running
    lockedBy := some workerId
    availableAt := some (now + seconds visibilityTimeoutSecs)
    startedAt := some (r.startedAt.getD now)
    attempts := r.attempts + 1 }

/-- `cancel`. -/
def cancel (now : Int) (r : RunRow) : RunRow :=
  { r with status := .cancelled, finishedAt := some now, lockedBy := none, availableAt := none }

/-- `complete`. -/
def complete (now : Int) (r : RunRow) : RunRow :=
  { r with status := .completed, finishedAt := some now, lockedBy := none, availableAt := none }

/-- `set_failed_tx`. -/
def setFailed (error : String) (now : Int) (r : RunRow) : RunRow :=
  { r with
    status := .failed
    error := some error
    finishedAt := some now
    lockedBy := none
    availableAt := none }

/-- `schedule_sleep`. -/
def sleep (durationSecs : Nat) (now : Int) (r : RunRow) : RunRow :=
  { r with
    status := .sleeping
    availableAt := some (now + seconds durationSecs)
    lockedBy := none }

/-- `schedule_retry`. -/
def retry (delayMs : Nat) (now : Int) (r : RunRow) : RunRow :=
  { r with
    status := .pending
    lockedBy := none
    availableAt := some (now + milliseconds delayMs) }

/-- `extend_visibility`. -/
def extend (extensionSecs : Int) (now : Int) (r : RunRow) : RunRow :=
  { r with availableAt := r.availableAt.map fun t => max t now + seconds extensionSecs }

/-- `update_next_fire`. -/
def nextFire (nextFireAt : Int) (lastFiredAt : Option Int) (r : RunRow) : RunRow :=
  { r with
    availableAt := some nextFireAt
    lastFiredAt := lastFiredAt.or r.lastFiredAt }

/-- `update`: six columns of the row are written from a `WorkflowRun`. -/
def overwrite (workflow : RunRow) (r : RunRow) : RunRow :=
  { r with
    status := workflow.status
    availableAt := workflow.availableAt
    cronExpr := workflow.cronExpr
    scheduleId := workflow.scheduleId
    maxCatchup := workflow.maxCatchup
    lastFiredAt := workflow.lastFiredAt }

/-- `ON DELETE SET NULL` of `fk_schedule_id`. -/
def orphan (r : RunRow) : RunRow := { r with scheduleId := none }

/-- The row `create` inserts. -/
def created (params : CreateWorkflow) (now : Int) : RunRow :=
  { runId := params.runId
    ns := params.ns
    externalId := params.externalId
    taskQueue := params.taskQueue
    workflowType := params.workflowType
    status := .pending
    lockedBy := none
    attempts := 0
    createdAt := some now
    startedAt := none
    finishedAt := none
    retryPolicy := params.retryPolicy.map ProtoPolicy.toValue
    version := some params.version
    error := none
    availableAt := some now
    cronExpr := params.cronExpr
    scheduleId := params.scheduleId
    lastFiredAt := none
    maxCatchup := 50 }

/-- The row `create_schedule_instance` inserts for the template `t`. -/
def instanceOf (t : RunRow) (runId : Uuid) (fireAt now : Int) : RunRow :=
  { runId := runId
    ns := t.ns
    externalId := "schedule-instance-" ++ toString runId
    taskQueue := t.taskQueue
    workflowType := t.workflowType
    status := .pending
    lockedBy := none
    attempts := 0
    createdAt := some now
    startedAt := none
    finishedAt := none
    retryPolicy := t.retryPolicy
    version := t.version
    error := none
    availableAt := some fireAt
    cronExpr := none
    scheduleId := some t.runId
    lastFiredAt := none
    maxCatchup := 50 }

/-- `available_at <= now`, false for a null. -/
def due (now : Int) (r : RunRow) : Bool :=
  match r.availableAt with
  | some t => t ≤ now
  | none => false

/-- The row has the given id and status. -/
def isAt (runId : Uuid) (status : WorkflowStatus) (r : RunRow) : Bool :=
  r.runId = runId && r.status = status

end RunRow

/-! ## Writing back -/

/-- The violation that made an update fail: a value out of range, or a unique
index. -/
def violation (invalid : Bool) : StoreError :=
  if invalid then .database else .conflict "duplicate key value violates unique constraint"

/-- A foreign key violation. -/
def foreignKey : StoreError :=
  .invalidArgument "insert or update violates foreign key constraint"

/-- Update the runs that satisfy `p`. -/
def Db.updateRuns (db : Db) (p : RunRow → Bool) (f : RunRow → RunRow) : Except StoreError Db :=
  match db.runs.update? p f with
  | some runs => .ok { db with runs := runs }
  | none => .error (violation (db.runs.rows.any fun r => p r && !decide (RunRow.Valid (f r))))

/-- Update the runs that satisfy `p` and answer `a`. -/
def Db.commitRuns {α : Type} (db : Db) (p : RunRow → Bool) (f : RunRow → RunRow) (a : α) :
    Except StoreError α × Db :=
  match db.updateRuns p f with
  | .ok db' => (.ok a, db')
  | .error x => (.error x, db)

/-- The namespace and the template a new run refers to exist. -/
def Db.refersWell (db : Db) (r : RunRow) : Bool :=
  (db.namespaces.get? r.ns).isSome && r.scheduleId.all fun s => (db.run s).isSome

/-- A run joined with its payload. -/
def Db.joined (db : Db) (r : RunRow) : Option WorkflowRun :=
  (db.payloads.get? r.runId).map fun p => { r with input := p.input, output := p.output }

/-! ## Creating and reading -/

/-- Insert a run, and its payload when there is an input for it. -/
def Db.insertRun (db : Db) (row : RunRow) (input : Option Bytes) :
    Except StoreError (Option Uuid) × Db :=
  match db.runs.insert? row, input with
  | none, _ => (.error (violation (!decide (RunRow.Valid row))), db)
  | some runs, none => (.ok none, { db with runs := runs })
  | some runs, some bytes =>
      match db.payloads.insert? ⟨row.runId, bytes, none⟩ with
      | none => (.error (violation false), db)
      | some payloads => (.ok (some row.runId), { db with runs := runs, payloads := payloads })

/-- `create`. -/
def createWorkflow (params : CreateWorkflow) : Sql Uuid := fun e db =>
  let row := RunRow.created params e.began
  if db.refersWell row then
    match db.insertRun row (some params.input) with
    | (.ok _, db') => (.ok params.runId, db')
    | (.error x, db') => (.error x, db')
  else (.error foreignKey, db)

/-- `find_by_id`. -/
def findById (runId : Uuid) (ns : String) : Sql (Option WorkflowRun) := fun _ db =>
  (.ok (((db.run runId).filter fun r => r.ns = ns).bind db.joined), db)

/-- `get_retry_policy`. -/
def getRetryPolicy (runId : Uuid) : Sql (Option RetryPolicy) := fun _ db =>
  (.ok (readPolicy ((db.run runId).bind RunRow.retryPolicy)), db)

/-- `find_active_by_external_id`. -/
def findActiveByExternalId (ns externalId : String) : Sql (Option Uuid) := fun _ db =>
  (.ok ((db.runs.rows.find? fun r =>
    r.ns = ns && r.externalId = externalId && !r.status.isTerminal).map RunRow.runId), db)

/-- `check_workflow_state`. -/
def checkWorkflowState (runId : Uuid) (ns : String) : Sql WorkflowExistsResult := fun _ db =>
  match (db.run runId).filter fun r => r.ns = ns with
  | some r => (.ok ⟨true, some r.status, r.lockedBy⟩, db)
  | none => (.ok ⟨false, none, none⟩, db)

/-- `get_namespace`. -/
def getNamespace (runId : Uuid) : Sql (Option String) := fun _ db =>
  (.ok ((db.run runId).map RunRow.ns), db)

/-! ## Leaving RUNNING -/

/-- Update the run when it has the status, and say whether it had. -/
def updateAt (runId : Uuid) (status : WorkflowStatus) (f : Int → RunRow → RunRow) : Sql Bool :=
  fun e db =>
    let p := RunRow.isAt runId status
    db.commitRuns p (f e.began) (db.runs.rows.any p)

/-- The first `UPDATE` of `cancel`. -/
def cancelRunning (runId : Uuid) (ns : String) : Sql Bool := fun e db =>
  let p : RunRow → Bool := fun r => r.runId = runId && r.ns = ns && r.status = .running
  db.commitRuns p (RunRow.cancel e.began) (db.runs.rows.any p)

/-- The second `UPDATE` of `cancel`. -/
def cancelWaiting (runId : Uuid) (ns : String) : Sql Bool := fun e db =>
  let p : RunRow → Bool := fun r =>
    r.runId = runId && r.ns = ns && (r.status = .pending || r.status = .sleeping)
  db.commitRuns p (RunRow.cancel e.began) (db.runs.rows.any p)

/-- The payloads after `UPDATE workflow_payloads SET output = $2`. -/
def Db.withOutput (db : Db) (runId : Uuid) (output : Bytes) : Db :=
  match db.payloads.update? (fun p => p.runId = runId) fun p => { p with output := some output } with
  | some payloads => { db with payloads := payloads }
  | none => db

/-- `complete`, when its `UPDATE` hits: the status and the output. -/
def completeRun (runId : Uuid) (output : Bytes) : Sql Bool := fun e db =>
  let p := RunRow.isAt runId .running
  if db.runs.rows.any p then
    match db.updateRuns p (RunRow.complete e.began) with
    | .ok db' => (.ok true, db'.withOutput runId output)
    | .error x => (.error x, db)
  else (.ok false, db)

/-- `complete`, when its `UPDATE` missed: the output is written all the same. -/
def setOutput (runId : Uuid) (output : Bytes) : Sql Unit := fun _ db =>
  (.ok (), db.withOutput runId output)

/-- `set_failed_tx`. -/
def setFailed (runId : Uuid) (error : String) : Sql Bool :=
  updateAt runId .running (RunRow.setFailed error)

/-- `schedule_sleep`. -/
def scheduleSleep (runId : Uuid) (durationSecs : Nat) : Sql Bool :=
  updateAt runId .running (RunRow.sleep durationSecs)

/-- `schedule_retry`. -/
def scheduleRetry (runId : Uuid) (delayMs : Nat) : Sql Bool :=
  updateAt runId .running (RunRow.retry delayMs)

/-! ## Claiming -/

/-- The `WHERE` clause of `poll_workflow`, and `SKIP LOCKED`. -/
def RunRow.available (ns taskQueue : String) (types : List String) (e : Env) (r : RunRow) : Bool :=
  r.ns = ns && r.taskQueue = taskQueue && r.status.isClaimable && r.due e.now &&
    (types.isEmpty || types.contains r.workflowType) && !e.locked.contains r.runId

/-- `ORDER BY available_at ASC LIMIT 1`. -/
def earliest : List RunRow → Option RunRow
  | [] => none
  | r :: rs =>
      match earliest rs with
      | none => some r
      | some r' => if r'.availableAt.getD 0 < r.availableAt.getD 0 then some r' else some r

theorem mem_of_earliest {rs : List RunRow} {r : RunRow} (h : earliest rs = some r) : r ∈ rs := by
  induction rs generalizing r with
  | nil => cases h
  | cons x rs ih =>
      rw [earliest] at h
      cases hr : earliest rs with
      | none =>
          rw [hr] at h
          obtain rfl := Option.some.inj h
          exact List.mem_cons_self ..
      | some r' =>
          rw [hr] at h
          dsimp only at h
          split at h
          · obtain rfl := Option.some.inj h
            exact List.mem_cons_of_mem _ (ih hr)
          · obtain rfl := Option.some.inj h
            exact List.mem_cons_self ..

/-- `poll_workflow`.  A claimed run without a payload is an error of the answer,
after the claim was made. -/
def pollWorkflow (ns taskQueue workerId : String) (types : List String)
    (visibilityTimeoutSecs : Int) : Sql (Option ClaimedWorkflow) := fun e db =>
  match earliest (db.runs.rows.filter (RunRow.available ns taskQueue types e)) with
  | none => (.ok none, db)
  | some task =>
      match db.updateRuns (fun r => r.runId = task.runId)
          (RunRow.claim workerId visibilityTimeoutSecs e.now) with
      | .error x => (.error x, db)
      | .ok db' =>
          match db.payloads.get? task.runId with
          | none => (.error .database, db')
          | some p => (.ok (some ⟨task.runId, task.workflowType, p.input, some workerId⟩), db')

/-- `extend_visibility`. -/
def extendVisibility (workerId : String) (extensionSecs : Int) : Sql Nat := fun e db =>
  let p : RunRow → Bool := fun r => r.lockedBy = some workerId && r.status = .running
  db.commitRuns p (RunRow.extend extensionSecs e.now) (db.runs.rows.countP p)

/-! ## Schedules -/

/-- `find_due_schedules` over all namespaces. -/
def findDueSchedules (now : Int) (limit : Int) : Sql (List WorkflowRun) := fun _ db =>
  if limit < 0 then (.error .database, db)
  else
    let due := db.runs.rows.filter fun r => r.status = .scheduled && r.due now
    let sorted := (due.filterMap db.joined).insertionSort
      fun a b => a.availableAt.getD 0 ≤ b.availableAt.getD 0
    (.ok (sorted.take limit.toNat), db)

/-- An instance of the template already holds the slot. -/
def Db.slotTaken (db : Db) (templateRunId : Uuid) (fireAt : Int) : Bool :=
  db.runs.rows.any fun r => r.scheduleId = some templateRunId && r.availableAt = some fireAt

/-- `create_schedule_instance`.  Without a payload of the template the run is
inserted all the same, and the answer is that of a conflict. -/
def createScheduleInstance (templateRunId : Uuid) (fireAt : Int) : Sql (Option Uuid) := fun e db =>
  match db.run templateRunId with
  | none => (.ok none, db)
  | some t =>
      if db.slotTaken templateRunId fireAt then (.ok none, db)
      else
        db.insertRun (t.instanceOf e.fresh fireAt e.now)
          ((db.payloads.get? templateRunId).map PayloadRow.input)

/-- `update_next_fire`. -/
def updateNextFire (runId : Uuid) (nextFireAt : Int) (lastFiredAt : Option Int) : Sql Unit :=
  fun _ db => db.commitRuns (fun r => r.runId = runId) (RunRow.nextFire nextFireAt lastFiredAt) ()

/-- `update`. -/
def updateWorkflow (runId : Uuid) (workflow : RunRow) : Sql Unit := fun _ db =>
  if workflow.scheduleId.all fun s => (db.run s).isSome then
    db.commitRuns (fun r => r.runId = runId) (RunRow.overwrite workflow) ()
  else (.error foreignKey, db)

/-- The first statement of `delete`. -/
def deletePayload (runId : Uuid) : Sql Unit := fun _ db =>
  (.ok (), { db with payloads := db.payloads.delete fun p => p.runId = runId })

/-- The second statement of `delete`.  Steps of the run forbid it, its payload
goes with it, and its instances lose their `schedule_id`. -/
def deleteRun (runId : Uuid) : Sql Unit := fun _ db =>
  if (db.run runId).isSome && db.steps.rows.any fun r => r.runId = runId then
    (.error foreignKey, db)
  else
    match (db.runs.delete fun r => r.runId = runId).update?
        (fun r => r.scheduleId = some runId) RunRow.orphan with
    | none => (.error .database, db)
    | some runs =>
        (.ok (), { db with
          runs := runs
          payloads := db.payloads.delete fun p => p.runId = runId })

end Kagzi
