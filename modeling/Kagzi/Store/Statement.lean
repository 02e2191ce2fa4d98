import Kagzi.Logic.Process
import Kagzi.Store.Worker

/-!
# The store as an engine

`Stmt` is everything a request handler can ask of the world: the SQL statements
of the store, the clock, a new identifier, the rate limiter and the queue
notifier.  `Stmt.exec` runs one of them.  A statement that faults has no
effect.

`World` is the database with the time of the last statement, and `Kagzi.store`
is the engine that executes statements in it.  The clock never runs backwards,
and the id of a deleted run is not given out again.

The store's functions, and with them the request handlers, are programs of
statements (`Store`).
-/

namespace Kagzi

open Atomic

/-! ## Statements -/

inductive Stmt where
  -- workflow runs
  | createWorkflow (params : CreateWorkflow)
  | findById (runId : Uuid) (ns : String)
  | getRetryPolicy (runId : Uuid)
  | findActiveByExternalId (ns externalId : String)
  | checkWorkflowState (runId : Uuid) (ns : String)
  | getNamespace (runId : Uuid)
  | cancelRunning (runId : Uuid) (ns : String)
  | cancelWaiting (runId : Uuid) (ns : String)
  | completeRun (runId : Uuid) (output : Bytes)
  | setOutput (runId : Uuid) (output : Bytes)
  | setFailed (runId : Uuid) (error : String)
  | scheduleSleep (runId : Uuid) (durationSecs : Nat)
  | scheduleRetry (runId : Uuid) (delayMs : Nat)
  | pollWorkflow (ns taskQueue workerId : String) (types : List String)
      (visibilityTimeoutSecs : Int)
  | extendVisibility (workerId : String) (extensionSecs : Int)
  | findDueSchedules (now : Int) (limit : Int)
  | createScheduleInstance (templateRunId : Uuid) (fireAt : Int)
  | updateNextFire (runId : Uuid) (nextFireAt : Int) (lastFiredAt : Option Int)
  | updateWorkflow (runId : Uuid) (workflow : RunRow)
  | deletePayload (runId : Uuid)
  | deleteRun (runId : Uuid)
  -- step runs
  | latestStep (runId : Uuid) (stepId : String)
  | latestStepKind (runId : Uuid) (stepId : String)
  | getRetryInfo (runId : Uuid) (stepId : String)
  | listSteps (runId : Uuid) (ns stepId : String) (pageSize : Int)
  | supersede (step : NewStep)
  | insertStep (step : NewStep)
  | completeRunningStep (runId : Uuid) (stepId : String) (output : Bytes)
  | failRunningStep (runId : Uuid) (stepId error : String)
  | failLatestStep (runId : Uuid) (stepId error : String)
  | completePendingSleeps (runId : Uuid)
  | recordLatestStep (runId : Uuid) (stepId : String) (status : StepStatus)
      (output : Option Bytes) (error : Option String)
  -- workers and namespaces
  | registerWorker (params : RegisterWorkerParams)
  | heartbeatWorker (workerId : Uuid)
  | startDrain (workerId : Uuid) (ns : String)
  | deregisterWorker (workerId : Uuid) (ns : String)
  | findWorker (workerId : Uuid)
  | markStaleOffline (thresholdSecs : Int)
  | findNamespace (name : String)
  | upsertNamespace (name : String) (now : Int)
  | setNamespaceEnabled (name : String) (enabled : Bool) (now : Int)
  -- the server's surroundings
  | utcNow
  | newUuid
  | random
  | rateCheck
  | notify (ns taskQueue : String)
deriving DecidableEq

/-- What a statement that succeeds answers. -/
abbrev Stmt.Ans : Stmt → Type
  | .createWorkflow _ => Uuid
  | .findById .. => Option WorkflowRun
  | .getRetryPolicy _ => Option RetryPolicy
  | .findActiveByExternalId .. => Option Uuid
  | .checkWorkflowState .. => WorkflowExistsResult
  | .getNamespace _ => Option String
  | .cancelRunning .. => Bool
  | .cancelWaiting .. => Bool
  | .completeRun .. => Bool
  | .setOutput .. => Unit
  | .setFailed .. => Bool
  | .scheduleSleep .. => Bool
  | .scheduleRetry .. => Bool
  | .pollWorkflow .. => Option ClaimedWorkflow
  | .extendVisibility .. => Nat
  | .findDueSchedules .. => List WorkflowRun
  | .createScheduleInstance .. => Option Uuid
  | .updateNextFire .. => Unit
  | .updateWorkflow .. => Unit
  | .deletePayload _ => Unit
  | .deleteRun _ => Unit
  | .latestStep .. => Option ExistingStep
  | .latestStepKind .. => Option StepKind
  | .getRetryInfo .. => Option StepRetryInfo
  | .listSteps .. => List StepRow
  | .supersede _ => Bool
  | .insertStep _ => Unit
  | .completeRunningStep .. => Bool
  | .failRunningStep .. => Bool
  | .failLatestStep .. => Unit
  | .completePendingSleeps _ => Nat
  | .recordLatestStep .. => Bool
  | .registerWorker _ => Uuid
  | .heartbeatWorker _ => Bool
  | .startDrain .. => Unit
  | .deregisterWorker .. => Unit
  | .findWorker _ => Option WorkerRow
  | .markStaleOffline _ => Nat
  | .findNamespace _ => Option NamespaceRow
  | .upsertNamespace .. => Unit
  | .setNamespaceEnabled .. => Bool
  | .utcNow => Int
  | .newUuid => Uuid
  | .random => Nat
  | .rateCheck => Bool
  | .notify .. => Unit

/-- What a statement answers. -/
abbrev Stmt.Result (q : Stmt) : Type := Except StoreError q.Ans

/-- What a statement does. -/
def Stmt.sql : (q : Stmt) → Sql q.Ans
  | .createWorkflow params => Kagzi.createWorkflow params
  | .findById runId ns => Kagzi.findById runId ns
  | .getRetryPolicy runId => Kagzi.getRetryPolicy runId
  | .findActiveByExternalId ns externalId => Kagzi.findActiveByExternalId ns externalId
  | .checkWorkflowState runId ns => Kagzi.checkWorkflowState runId ns
  | .getNamespace runId => Kagzi.getNamespace runId
  | .cancelRunning runId ns => Kagzi.cancelRunning runId ns
  | .cancelWaiting runId ns => Kagzi.cancelWaiting runId ns
  | .completeRun runId output => Kagzi.completeRun runId output
  | .setOutput runId output => Kagzi.setOutput runId output
  | .setFailed runId error => Kagzi.setFailed runId error
  | .scheduleSleep runId secs => Kagzi.scheduleSleep runId secs
  | .scheduleRetry runId ms => Kagzi.scheduleRetry runId ms
  | .pollWorkflow ns taskQueue workerId types secs =>
      Kagzi.pollWorkflow ns taskQueue workerId types secs
  | .extendVisibility workerId secs => Kagzi.extendVisibility workerId secs
  | .findDueSchedules now limit => Kagzi.findDueSchedules now limit
  | .createScheduleInstance templateRunId fireAt =>
      Kagzi.createScheduleInstance templateRunId fireAt
  | .updateNextFire runId next last => Kagzi.updateNextFire runId next last
  | .updateWorkflow runId workflow => Kagzi.updateWorkflow runId workflow
  | .deletePayload runId => Kagzi.deletePayload runId
  | .deleteRun runId => Kagzi.deleteRun runId
  | .latestStep runId stepId => Kagzi.latestStep runId stepId
  | .latestStepKind runId stepId => Kagzi.latestStepKind runId stepId
  | .getRetryInfo runId stepId => Kagzi.getRetryInfo runId stepId
  | .listSteps runId ns stepId pageSize => Kagzi.listSteps runId ns stepId pageSize
  | .supersede step => Kagzi.supersede step
  | .insertStep step => Kagzi.insertStep step
  | .completeRunningStep runId stepId output => Kagzi.completeRunningStep runId stepId output
  | .failRunningStep runId stepId error => Kagzi.failRunningStep runId stepId error
  | .failLatestStep runId stepId error => Kagzi.failLatestStep runId stepId error
  | .completePendingSleeps runId => Kagzi.completePendingSleeps runId
  | .recordLatestStep runId stepId status output error =>
      Kagzi.recordLatestStep runId stepId status output error
  | .registerWorker params => Kagzi.registerWorker params
  | .heartbeatWorker workerId => Kagzi.heartbeatWorker workerId
  | .startDrain workerId ns => Kagzi.startDrain workerId ns
  | .deregisterWorker workerId ns => Kagzi.deregisterWorker workerId ns
  | .findWorker workerId => Kagzi.findWorker workerId
  | .markStaleOffline secs => Kagzi.markStaleOffline secs
  | .findNamespace name => Kagzi.findNamespace name
  | .upsertNamespace name now => Kagzi.upsertNamespace name now
  | .setNamespaceEnabled name enabled now => Kagzi.setNamespaceEnabled name enabled now
  | .utcNow => fun e db => (.ok e.now, db)
  | .newUuid => fun e db => (.ok e.fresh, db)
  | .random => fun e db => (.ok e.rand, db)
  | .rateCheck => fun e db => (.ok (e.rand % 2 = 0), db)
  | .notify _ _ => fun _ db => (.ok (), db)

/-- Reading the clock, drawing an identifier or a number, and asking the rate
limiter cannot fail. -/
def Stmt.isLocal : Stmt → Bool
  | .utcNow => true
  | .newUuid => true
  | .random => true
  | .rateCheck => true
  | _ => false

/-- Run a statement. -/
def Stmt.exec (e : Env) (q : Stmt) (db : Db) : q.Result × Db :=
  if e.fault && !q.isLocal then (.error .database, db) else q.sql e db

theorem Stmt.exec_of_fault {e : Env} {q : Stmt} {db : Db} (h : e.fault = true)
    (hq : q.isLocal = false) : q.exec e db = (.error .database, db) := by
  simp [Stmt.exec, h, hq]

theorem Stmt.exec_of_safe {e : Env} {q : Stmt} {db : Db} (h : e.fault = false) :
    q.exec e db = q.sql e db := by
  simp [Stmt.exec, h]

/-- A statement either faults without effect or does what its SQL says. -/
theorem Stmt.exec_cases (e : Env) (q : Stmt) (db : Db) :
    q.exec e db = (.error .database, db) ∨ q.exec e db = q.sql e db := by
  unfold Stmt.exec
  split
  · exact Or.inl rfl
  · exact Or.inr rfl

theorem Stmt.exec_ok {e : Env} {q : Stmt} {db : Db} {a : q.Ans} (h : (q.exec e db).1 = .ok a) :
    q.exec e db = q.sql e db := by
  rcases q.exec_cases e db with hx | hx
  · rw [hx] at h
    cases h
  · exact hx

/-! ## Errors of statements -/

/-- The errors that the database itself gives rise to. -/
def StoreError.isSql : StoreError → Bool
  | .database => true
  | .conflict _ => true
  | .invalidArgument _ => true
  | _ => false

/-- What a statement fails with: a fault or a value out of range, a unique index, or a
foreign key. -/
inductive StoreError.OfSql : StoreError → Prop where
  | database : OfSql .database
  | unique : OfSql (violation false)
  | foreignKey : OfSql foreignKey

theorem StoreError.OfSql.isSql {x : StoreError} (h : x.OfSql) : x.isSql = true := by
  cases h <;> rfl

theorem violation_ofSql (invalid : Bool) : (violation invalid).OfSql := by
  cases invalid with
  | true => exact .database
  | false => exact .unique

section Errors
variable {x : StoreError}

theorem Db.commitRuns_ofSql {α : Type} {db : Db} {p : RunRow → Bool} {f : RunRow → RunRow} {a : α}
    (h : (db.commitRuns p f a).1 = .error x) : x.OfSql := by
  unfold Db.commitRuns Db.updateRuns at h
  split at h
  next => cases h
  next hu =>
    obtain rfl := Except.error.inj h
    split at hu
    next => cases hu
    next => exact Except.error.inj hu ▸ violation_ofSql _

theorem Db.commitSteps_ofSql {α : Type} {db : Db} {p : StepRow → Bool} {f : StepRow → StepRow}
    {a : α} (h : (db.commitSteps p f a).1 = .error x) : x.OfSql := by
  unfold Db.commitSteps at h
  split at h
  next => cases h
  next => exact Except.error.inj h ▸ violation_ofSql _

theorem Db.insertStep_ofSql {db : Db} {step : NewStep} {now : Int}
    (h : db.insertStep step now = .error x) : x.OfSql := by
  unfold Db.insertStep at h
  split at h
  next => exact Except.error.inj h ▸ .database
  next =>
    split at h
    next => exact Except.error.inj h ▸ violation_ofSql _
    next => cases h

theorem supersede_ofSql {step : NewStep} {e : Env} {db : Db}
    (h : (supersede step e db).1 = .error x) : x.OfSql := by
  unfold supersede at h
  split at h
  next =>
    split at h
    next => exact Except.error.inj h ▸ violation_ofSql _
    next =>
      split at h
      next => cases h
      next hi => exact Except.error.inj h ▸ Db.insertStep_ofSql hi
  next => cases h

theorem insertStep_ofSql {step : NewStep} {e : Env} {db : Db}
    (h : (insertStep step e db).1 = .error x) : x.OfSql := by
  unfold insertStep at h
  split at h
  next => cases h
  next hi => exact Except.error.inj h ▸ Db.insertStep_ofSql hi

/-- The statements of the completion of a step. -/
def Stmt.completesStep : Stmt → Bool
  | .getNamespace _ => true
  | .checkWorkflowState _ _ => true
  | .latestStep _ _ => true
  | .latestStepKind _ _ => true
  | .listSteps _ _ _ _ => true
  | .supersede _ => true
  | .insertStep _ => true
  | .completeRunningStep _ _ _ => true
  | .newUuid => true
  | _ => false

theorem Stmt.completesStep_ofSql {e : Env} {q : Stmt} {db : Db} (h : (q.exec e db).1 = .error x)
    (hq : q.completesStep = true) : x.OfSql := by
  rcases q.exec_cases e db with hx | hx
  · rw [hx] at h
    exact Except.error.inj h ▸ .database
  · rw [hx] at h
    cases q with
    | getNamespace _ => cases h
    | checkWorkflowState runId ns =>
        change (Kagzi.checkWorkflowState runId ns e db).1 = .error x at h
        unfold Kagzi.checkWorkflowState at h
        split at h <;> cases h
    | latestStep _ _ => cases h
    | latestStepKind _ _ => cases h
    | listSteps _ _ _ _ => cases h
    | supersede step => exact supersede_ofSql h
    | insertStep step => exact insertStep_ofSql h
    | completeRunningStep _ _ _ => exact Db.commitSteps_ofSql h
    | newUuid => cases h
    | _ => cases hq

theorem Db.updateRuns_ofSql {db : Db} {p : RunRow → Bool} {f : RunRow → RunRow}
    (h : db.updateRuns p f = .error x) : x.OfSql := by
  have hcommit : (db.commitRuns p f ()).1 = .error x := by simp [Db.commitRuns, h]
  exact Db.commitRuns_ofSql hcommit

theorem Db.insertRun_ofSql {db : Db} {row : RunRow} {input : Option Bytes}
    (h : (db.insertRun row input).1 = .error x) : x.OfSql := by
  unfold Db.insertRun at h
  split at h
  next => exact Except.error.inj h ▸ violation_ofSql _
  next => cases h
  next =>
    split at h
    next => exact Except.error.inj h ▸ violation_ofSql _
    next => cases h

theorem Db.commitWorkers_ofSql {α : Type} {db : Db} {p : WorkerRow → Bool}
    {f : WorkerRow → WorkerRow} {a : α} (h : (db.commitWorkers p f a).1 = .error x) :
    x.OfSql := by
  unfold Db.commitWorkers at h
  split at h
  next => cases h
  next => exact Except.error.inj h ▸ violation_ofSql _

theorem createWorkflow_ofSql {params : CreateWorkflow} {e : Env} {db : Db}
    (h : (createWorkflow params e db).1 = .error x) : x.OfSql := by
  simp only [createWorkflow] at h
  split at h
  next =>
    split at h
    next => cases h
    next hi => exact Except.error.inj h ▸ Db.insertRun_ofSql (congrArg Prod.fst hi)
  next => exact Except.error.inj h ▸ .foreignKey

theorem completeRun_ofSql {runId : Uuid} {output : Bytes} {e : Env} {db : Db}
    (h : (completeRun runId output e db).1 = .error x) : x.OfSql := by
  simp only [completeRun] at h
  split at h
  next =>
    split at h
    next => cases h
    next hu => exact Except.error.inj h ▸ Db.updateRuns_ofSql hu
  next => cases h

theorem pollWorkflow_ofSql {ns taskQueue workerId : String} {types : List String} {secs : Int}
    {e : Env} {db : Db} (h : (pollWorkflow ns taskQueue workerId types secs e db).1 = .error x) :
    x.OfSql := by
  unfold pollWorkflow at h
  split at h
  next => cases h
  next =>
    split at h
    next hu => exact Except.error.inj h ▸ Db.updateRuns_ofSql hu
    next =>
      split at h
      next => exact Except.error.inj h ▸ .database
      next => cases h

theorem findDueSchedules_ofSql {now limit : Int} {e : Env} {db : Db}
    (h : (findDueSchedules now limit e db).1 = .error x) : x.OfSql := by
  unfold findDueSchedules at h
  split at h
  next => exact Except.error.inj h ▸ .database
  next => cases h

theorem createScheduleInstance_ofSql {templateRunId : Uuid} {fireAt : Int} {e : Env} {db : Db}
    (h : (createScheduleInstance templateRunId fireAt e db).1 = .error x) : x.OfSql := by
  unfold createScheduleInstance at h
  split at h
  next => cases h
  next =>
    split at h
    next => cases h
    next => exact Db.insertRun_ofSql h

theorem updateWorkflow_ofSql {runId : Uuid} {workflow : RunRow} {e : Env} {db : Db}
    (h : (updateWorkflow runId workflow e db).1 = .error x) : x.OfSql := by
  unfold updateWorkflow at h
  split at h
  next => exact Db.commitRuns_ofSql h
  next => exact Except.error.inj h ▸ .foreignKey

theorem deleteRun_ofSql {runId : Uuid} {e : Env} {db : Db}
    (h : (deleteRun runId e db).1 = .error x) : x.OfSql := by
  unfold deleteRun at h
  split at h
  next => exact Except.error.inj h ▸ .foreignKey
  next =>
    split at h
    next => exact Except.error.inj h ▸ .database
    next => cases h

theorem registerWorker_ofSql {params : RegisterWorkerParams} {e : Env} {db : Db}
    (h : (registerWorker params e db).1 = .error x) : x.OfSql := by
  unfold registerWorker at h
  split at h
  next => exact Db.commitWorkers_ofSql h
  next =>
    split at h
    next =>
      split at h
      next => cases h
      next => exact Except.error.inj h ▸ violation_ofSql _
    next => exact Except.error.inj h ▸ .foreignKey

theorem upsertNamespace_ofSql {name : String} {now : Int} {e : Env} {db : Db}
    (h : (upsertNamespace name now e db).1 = .error x) : x.OfSql := by
  unfold upsertNamespace at h
  split at h
  next => cases h
  next =>
    split at h
    next => cases h
    next => exact Except.error.inj h ▸ violation_ofSql _

theorem setNamespaceEnabled_ofSql {name : String} {enabled : Bool} {now : Int} {e : Env} {db : Db}
    (h : (setNamespaceEnabled name enabled now e db).1 = .error x) : x.OfSql := by
  simp only [setNamespaceEnabled] at h
  split at h
  next => cases h
  next => exact Except.error.inj h ▸ violation_ofSql _

/-- Every error of a statement is one of the database. -/
theorem Stmt.exec_ofSql {e : Env} {q : Stmt} {db : Db} (h : (q.exec e db).1 = .error x) :
    x.OfSql := by
  cases hq : q.completesStep with
  | true => exact Stmt.completesStep_ofSql h hq
  | false =>
      rcases q.exec_cases e db with hx | hx
      · rw [hx] at h
        exact Except.error.inj h ▸ .database
      · rw [hx] at h
        cases q with
        | createWorkflow _ => exact createWorkflow_ofSql h
        | completeRun _ _ => exact completeRun_ofSql h
        | pollWorkflow _ _ _ _ _ => exact pollWorkflow_ofSql h
        | findDueSchedules _ _ => exact findDueSchedules_ofSql (e := e) h
        | createScheduleInstance _ _ => exact createScheduleInstance_ofSql (e := e) h
        | updateWorkflow _ _ => exact updateWorkflow_ofSql (e := e) h
        | deleteRun _ => exact deleteRun_ofSql (e := e) h
        | registerWorker _ => exact registerWorker_ofSql (e := e) h
        | upsertNamespace _ _ => exact upsertNamespace_ofSql (e := e) h
        | setNamespaceEnabled _ _ _ => exact setNamespaceEnabled_ofSql (e := e) h
        | cancelRunning _ _ => exact Db.commitRuns_ofSql h
        | cancelWaiting _ _ => exact Db.commitRuns_ofSql h
        | setFailed _ _ => exact Db.commitRuns_ofSql h
        | scheduleSleep _ _ => exact Db.commitRuns_ofSql h
        | scheduleRetry _ _ => exact Db.commitRuns_ofSql h
        | extendVisibility _ _ => exact Db.commitRuns_ofSql h
        | updateNextFire _ _ _ => exact Db.commitRuns_ofSql h
        | failRunningStep _ _ _ => exact Db.commitSteps_ofSql h
        | failLatestStep _ _ _ => exact Db.commitSteps_ofSql h
        | completePendingSleeps _ => exact Db.commitSteps_ofSql h
        | recordLatestStep _ _ _ _ _ => exact Db.commitSteps_ofSql h
        | heartbeatWorker _ => exact Db.commitWorkers_ofSql h
        | startDrain _ _ => exact Db.commitWorkers_ofSql h
        | deregisterWorker _ _ => exact Db.commitWorkers_ofSql h
        | markStaleOffline _ => exact Db.commitWorkers_ofSql h
        | _ => first | cases h | cases hq

theorem Stmt.exec_isSql {e : Env} {q : Stmt} {db : Db} (h : (q.exec e db).1 = .error x) :
    x.isSql = true :=
  (Stmt.exec_ofSql h).isSql

end Errors

/-- The id of the run that a statement inserts, if it inserts one. -/
def Stmt.newRun (e : Env) : Stmt → Option Uuid
  | .createWorkflow params => some params.runId
  | .createScheduleInstance .. => some e.fresh
  | _ => none

/-! ## The engine -/

/-- The database, the time of the last statement, and the ids of the runs that
were deleted. -/
structure World where
  now : Int
  db : Db
  retired : List Uuid

/-- The world with an empty database. -/
def World.empty (now : Int) : World := ⟨now, .empty, []⟩

/-- The row of a run. -/
def World.run (w : World) (runId : Uuid) : Option RunRow := w.db.run runId

/-- The run has the status. -/
def World.HasStatus (w : World) (runId : Uuid) (status : WorkflowStatus) : Prop :=
  ∃ r, w.run runId = some r ∧ r.status = status

instance (w : World) (runId : Uuid) (status : WorkflowStatus) :
    Decidable (w.HasStatus runId status) :=
  decidable_of_iff ((w.run runId).any fun r => r.status = status) (by
    simp [World.HasStatus, Option.any_eq_true])

/-- The latest attempt of a step. -/
def World.latest (w : World) (runId : Uuid) (stepId : String) : Option StepRow :=
  w.db.latest runId stepId

@[simp] theorem World.run_empty (now : Int) (runId : Uuid) : (World.empty now).run runId = none :=
  rfl

@[simp] theorem World.latest_empty (now : Int) (runId : Uuid) (stepId : String) :
    (World.empty now).latest runId stepId = none :=
  rfl

/-- The ids of the runs of `db` that `db'` does not have. -/
def Db.deleted (db db' : Db) : List Uuid :=
  (db.runs.rows.map RunRow.runId).filter fun id => (db'.run id).isNone

/-- The store.  The clock does not run backwards, an identifier is not given out
again, and a transaction has begun before its statements run. -/
def store : Engine Stmt Stmt.Result World Env where
  exec e q w :=
    ((q.exec e w.db).1,
      ⟨e.now, (q.exec e w.db).2, w.retired ++ w.db.deleted (q.exec e w.db).2⟩)
  admits _ e q m := m.store.now ≤ e.now ∧ (∀ id ∈ q.newRun e, id ∉ m.store.retired) ∧
    e.began ≤ e.now

@[simp] theorem store_exec_now (e : Env) (q : Stmt) (w : World) :
    (store.exec e q w).2.now = e.now := rfl

@[simp] theorem store_exec_db (e : Env) (q : Stmt) (w : World) :
    (store.exec e q w).2.db = (q.exec e w.db).2 := rfl

@[simp] theorem store_exec_fst (e : Env) (q : Stmt) (w : World) :
    (store.exec e q w).1 = (q.exec e w.db).1 := rfl

@[simp] theorem store_exec_run (e : Env) (q : Stmt) (w : World) (runId : Uuid) :
    (store.exec e q w).2.run runId = (q.exec e w.db).2.run runId := rfl

@[simp] theorem store_exec_latest (e : Env) (q : Stmt) (w : World) (runId : Uuid)
    (stepId : String) :
    (store.exec e q w).2.latest runId stepId = (q.exec e w.db).2.latest runId stepId := rfl

instance (i : Nat) (e : Env) (q : Stmt) (m : Moment Stmt Stmt.Result World Env) :
    Decidable (store.admits i e q m) :=
  inferInstanceAs (Decidable (m.store.now ≤ e.now ∧ (∀ id ∈ q.newRun e, id ∉ m.store.retired) ∧
    e.began ≤ e.now))

/-- A moment of the store: the world and the statements run so far, newest
first. -/
abbrev Now := Moment Stmt Stmt.Result World Env

/-- A statement that was run. -/
abbrev Ran := Event Stmt Stmt.Result Env

/-! ## Programs of the store -/

/-- A function of the store: a program that may fail with a `StoreError`. -/
abbrev Store (α : Type) := Prog Stmt Stmt.Result StoreError α

/-- Run one statement, and fail with its error. -/
def sql (q : Stmt) : Store q.Ans := .call q .ofExcept

theorem uses_sql {allowed : Stmt → Prop} {q : Stmt} (h : allowed q) :
    (sql q).Uses allowed :=
  ⟨h, fun _ => Prog.uses_ofExcept _⟩

theorem within_sql {answers : (q : Stmt) → q.Result → Prop} {allowed : Stmt → Prop} {q : Stmt}
    {P : q.Ans → Prop} {X : StoreError → Prop} (h : allowed q)
    (hok : ∀ a, answers q (.ok a) → P a) (herror : ∀ x, answers q (.error x) → X x) :
    (sql q).Within answers allowed P X := by
  refine ⟨h, fun a ha => ?_⟩
  cases a with
  | ok a => exact hok a ha
  | error x => exact herror x ha

/-- One statement: it satisfies the guarantee, and an answer establishes what it
is taken to establish. -/
theorem sat_sql {M : Engine Stmt Stmt.Result World Env} {Γ : Condition Stmt Stmt.Result World Env}
    {i : Nat} {K : Now → Prop} {q : Stmt} {L : q.Ans → Now → Prop}
    (hL : ∀ a, Stable M Γ i (L a))
    (h : ∀ e m, K m → M.admits i e q m → Γ i e q m ∧
      ∀ a, (M.exec e q m.store).1 = .ok a → L a (m.after M i e q)) :
    Sat M Γ i K (sql q) L (fun _ _ => True) := by
  intro e m hK ha
  obtain ⟨hΓ, hok⟩ := h e m hK ha
  cases hres : (M.exec e q m.store).1 with
  | ok a => exact ⟨hΓ, L a, hL a, hok a hres, fun _ h => h⟩
  | error x => exact ⟨hΓ, fun _ => True, stable_true, trivial, fun _ _ => trivial⟩

/-- One statement of a caller whose knowledge no statement destroys. -/
theorem sat_sql_learn {M : Engine Stmt Stmt.Result World Env}
    {Γ : Condition Stmt Stmt.Result World Env} {i : Nat} {K : Now → Prop} {q : Stmt}
    {L : q.Ans → Now → Prop} (hΓ : ∀ e m, K m → M.admits i e q m → Γ i e q m)
    (hK : Invariant (M.restrict Γ) K) (hL : ∀ a, Invariant (M.restrict Γ) (L a))
    (h : ∀ e m a, K m → M.admits i e q m → (M.exec e q m.store).1 = .ok a →
      L a (m.after M i e q)) :
    Sat M Γ i K (sql q) (fun a m => L a m ∧ K m) (fun _ => K) := by
  intro e m hm ha
  have hguard := hΓ e m hm ha
  have hm' : K (m.after M i e q) := hK i e q m hm ⟨ha, hguard⟩
  refine ⟨hguard, ?_⟩
  cases hres : (M.exec e q m.store).1 with
  | ok a => exact ⟨_, (hL a).stable.and hK.stable, ⟨h e m a hm ha hres, hm'⟩, fun _ h => h⟩
  | error x => exact ⟨K, hK.stable, hm', fun _ h => h⟩

end Kagzi
