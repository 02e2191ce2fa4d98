import Kagzi.Store.Statement

/-!
# What a statement does to a worker

`WorkerChange e q old new` lists everything a statement can do to the row of one
worker, and `Stmt.exec_worker` says that the list is complete.
-/

namespace Kagzi

open Relational

/-- What can become of the row of a worker, in the supply `e`. -/
inductive WorkerChange (e : Env) : Stmt → Option WorkerRow → Option WorkerRow → Prop where
  | same {q : Stmt} {o : Option WorkerRow} : WorkerChange e q o o
  | registered {params : RegisterWorkerParams} :
      WorkerChange e (.registerWorker params) none
        (some (WorkerRow.registered params e.fresh e.now))
  | reregistered {params : RegisterWorkerParams} {r : WorkerRow} :
      r.status ≠ .offline →
      WorkerChange e (.registerWorker params) (some r) (some (r.reregister params e.now))
  | beat {r : WorkerRow} :
      r.status ≠ .offline →
      WorkerChange e (.heartbeatWorker r.workerId) (some r)
        (some { r with lastHeartbeatAt := e.now })
  | drained {r : WorkerRow} :
      WorkerChange e (.startDrain r.workerId r.ns) (some r) (some r.drain)
  | deregistered {r : WorkerRow} :
      WorkerChange e (.deregisterWorker r.workerId r.ns) (some r) (some (r.offline e.now))
  | stale {secs : Int} {r : WorkerRow} :
      r.status ≠ .offline → r.lastHeartbeatAt < e.now - seconds secs →
      WorkerChange e (.markStaleOffline secs) (some r) (some (r.offline e.now))

/-! ## Looking workers up -/

/-- The row of a worker. -/
def Db.worker (db : Db) (workerId : Uuid) : Option WorkerRow := db.workers.get? workerId

/-- The row of a worker. -/
def World.worker (w : World) (workerId : Uuid) : Option WorkerRow := w.db.worker workerId

theorem Db.workerId_of_worker {db : Db} {workerId : Uuid} {r : WorkerRow}
    (h : db.worker workerId = some r) : r.workerId = workerId :=
  Table.key_of_get? h

theorem Db.worker_congr {db db' : Db} (h : db'.workers = db.workers) (workerId : Uuid) :
    db'.worker workerId = db.worker workerId := by
  simp only [Db.worker, h]

/-! ## The statements on workers -/

section Workers
variable (e : Env) (db : Db) (workerId : Uuid)

/-- An update of workers, by what it does to each row it hits. -/
theorem commitWorkers_change {q : Stmt} {α : Type} {p : WorkerRow → Bool}
    {f : WorkerRow → WorkerRow} (a : α) (hf : ∀ r, (f r).workerId = r.workerId)
    (hq : ∀ r, db.worker workerId = some r → p r = true → WorkerChange e q (some r) (some (f r))) :
    WorkerChange e q (db.worker workerId) ((db.commitWorkers p f a).2.worker workerId) := by
  unfold Db.commitWorkers
  split
  next workers hu =>
    have hget : ({ db with workers := workers } : Db).worker workerId
        = (db.worker workerId).map (amend p f) := Table.get?_update? hf hu workerId
    rw [hget]
    cases hr : db.worker workerId with
    | none => exact .same
    | some r =>
        cases hp : p r with
        | true => simpa [hp] using hq r hr hp
        | false => simpa [hp] using WorkerChange.same
  next => exact .same

theorem registerWorker_worker (params : RegisterWorkerParams) :
    WorkerChange e (.registerWorker params) (db.worker workerId)
      ((registerWorker params e db).2.worker workerId) := by
  unfold registerWorker
  split
  next found hfind =>
    refine commitWorkers_change e db workerId _ (fun _ => rfl) fun r hr hp => ?_
    have hmem := List.mem_of_find?_eq_some hfind
    obtain rfl : r = found :=
      db.workers.eq_of_clash (Table.mem_of_get? hr) hmem (.inl (by simpa using hp))
    have hsame := List.find?_some hfind
    simp only [WorkerRow.sameProcess, Bool.and_eq_true, decide_eq_true_eq] at hsame
    exact .reregistered hsame.1.1.1.1
  next =>
    split
    next =>
      split
      next workers hi =>
        have hget : ({ db with workers := workers } : Db).worker workerId
            = if e.fresh = workerId then some (WorkerRow.registered params e.fresh e.now)
              else db.worker workerId := Table.get?_insert? hi workerId
        rw [hget]
        split
        next hid =>
          have hnone : db.worker workerId = none := hid ▸ Table.get?_key_of_insert? hi
          rw [hnone]
          exact .registered
        next => exact .same
      next => exact .same
    next => exact .same

end Workers

/-! ## The other statements -/

/-- The statement writes no worker. -/
def Stmt.sparesWorkers : Stmt → Bool
  | .registerWorker _ => false
  | .heartbeatWorker _ => false
  | .startDrain _ _ => false
  | .deregisterWorker _ _ => false
  | .markStaleOffline _ => false
  | _ => true

section Spared
variable {db : Db}

theorem Db.updateRuns_workers {db' : Db} {p : RunRow → Bool} {f : RunRow → RunRow}
    (h : db.updateRuns p f = .ok db') : db'.workers = db.workers := by
  unfold Db.updateRuns at h
  split at h
  next =>
    obtain rfl := Except.ok.inj h
    rfl
  next => cases h

theorem Db.commitRuns_workers {α : Type} (p : RunRow → Bool) (f : RunRow → RunRow) (a : α) :
    (db.commitRuns p f a).2.workers = db.workers := by
  unfold Db.commitRuns
  split
  next h => exact Db.updateRuns_workers h
  next => rfl

theorem Db.withOutput_workers (runId : Uuid) (output : Bytes) :
    (db.withOutput runId output).workers = db.workers := by
  unfold Db.withOutput
  split <;> rfl

theorem Db.insertRun_workers (row : RunRow) (input : Option Bytes) :
    (db.insertRun row input).2.workers = db.workers := by
  unfold Db.insertRun
  split
  next => rfl
  next => rfl
  next => split <;> rfl

theorem Db.commitSteps_workers {α : Type} (p : StepRow → Bool) (f : StepRow → StepRow) (a : α) :
    (db.commitSteps p f a).2.workers = db.workers := by
  unfold Db.commitSteps
  split <;> rfl

theorem Db.insertStep_workers {db' : Db} {step : NewStep} {now : Int}
    (h : db.insertStep step now = .ok db') : db'.workers = db.workers := by
  unfold Db.insertStep at h
  split at h
  next => cases h
  next =>
    split at h
    next => cases h
    next =>
      obtain rfl := Except.ok.inj h
      rfl

theorem supersede_workers (step : NewStep) (e : Env) :
    (supersede step e db).2.workers = db.workers := by
  unfold supersede
  split
  next =>
    split
    next => rfl
    next =>
      split
      next h => exact (Db.insertStep_workers h).trans rfl
      next => rfl
  next => rfl

theorem createWorkflow_workers (params : CreateWorkflow) (e : Env) :
    (createWorkflow params e db).2.workers = db.workers := by
  have h := db.insertRun_workers (RunRow.created params e.began) (some params.input)
  unfold createWorkflow
  dsimp only
  split
  next => split <;> next hi => rwa [hi] at h
  next => rfl

theorem Stmt.sql_sparesWorkers {q : Stmt} (h : q.sparesWorkers = true) (e : Env) (db : Db) :
    (q.sql e db).2.workers = db.workers := by
  cases q with
  | createWorkflow params => exact createWorkflow_workers params e
  | checkWorkflowState id ns =>
      simp only [Stmt.sql, Kagzi.checkWorkflowState]
      split <;> rfl
  | cancelRunning _ _ => exact Db.commitRuns_workers ..
  | cancelWaiting _ _ => exact Db.commitRuns_workers ..
  | completeRun target output =>
      simp only [Stmt.sql, Kagzi.completeRun]
      split
      · split
        next hu => exact (Db.withOutput_workers ..).trans (Db.updateRuns_workers hu)
        next => rfl
      · rfl
  | setOutput target output => exact db.withOutput_workers target output
  | setFailed _ _ => exact Db.commitRuns_workers ..
  | scheduleSleep _ _ => exact Db.commitRuns_workers ..
  | scheduleRetry _ _ => exact Db.commitRuns_workers ..
  | pollWorkflow ns taskQueue workerId types secs =>
      simp only [Stmt.sql, Kagzi.pollWorkflow]
      split
      · rfl
      · split
        next => rfl
        next hu => split <;> exact Db.updateRuns_workers hu
  | extendVisibility _ _ => exact Db.commitRuns_workers ..
  | findDueSchedules now limit =>
      simp only [Stmt.sql, Kagzi.findDueSchedules]
      split <;> rfl
  | createScheduleInstance templateRunId fireAt =>
      simp only [Stmt.sql, Kagzi.createScheduleInstance]
      split
      · rfl
      · split
        · rfl
        · exact Db.insertRun_workers ..
  | updateNextFire _ _ _ => exact Db.commitRuns_workers ..
  | updateWorkflow target workflow =>
      simp only [Stmt.sql, Kagzi.updateWorkflow]
      split
      · exact Db.commitRuns_workers ..
      · rfl
  | deleteRun target =>
      simp only [Stmt.sql, Kagzi.deleteRun]
      split
      · rfl
      · split <;> rfl
  | supersede step => exact supersede_workers step e
  | insertStep step =>
      simp only [Stmt.sql, Kagzi.insertStep]
      split
      next hi => exact Db.insertStep_workers hi
      next => rfl
  | completeRunningStep _ _ _ => exact Db.commitSteps_workers ..
  | failRunningStep _ _ _ => exact Db.commitSteps_workers ..
  | failLatestStep _ _ _ => exact Db.commitSteps_workers ..
  | completePendingSleeps _ => exact Db.commitSteps_workers ..
  | recordLatestStep _ _ _ _ _ => exact Db.commitSteps_workers ..
  | upsertNamespace name now =>
      simp only [Stmt.sql, Kagzi.upsertNamespace]
      split
      · rfl
      · split <;> rfl
  | setNamespaceEnabled name enabled now =>
      simp only [Stmt.sql, Kagzi.setNamespaceEnabled]
      split <;> rfl
  | registerWorker _ => cases h
  | heartbeatWorker _ => cases h
  | startDrain _ _ => cases h
  | deregisterWorker _ _ => cases h
  | markStaleOffline _ => cases h
  | _ => rfl

end Spared

/-! ## All statements -/

theorem Stmt.sql_worker (e : Env) (q : Stmt) (db : Db) (workerId : Uuid) :
    WorkerChange e q (db.worker workerId) ((q.sql e db).2.worker workerId) := by
  cases hspare : q.sparesWorkers with
  | true =>
      rw [Db.worker_congr (q.sql_sparesWorkers hspare e db)]
      exact .same
  | false =>
  cases q with
  | registerWorker params => exact registerWorker_worker e db workerId params
  | heartbeatWorker target =>
      refine commitWorkers_change e db workerId _ (fun _ => rfl) fun r _ hp => ?_
      obtain ⟨rfl, hs⟩ : r.workerId = target ∧ r.status ≠ .offline := by simpa using hp
      exact .beat hs
  | startDrain target ns =>
      refine commitWorkers_change e db workerId _ (fun _ => rfl) fun r _ hp => ?_
      obtain ⟨rfl, rfl⟩ : r.workerId = target ∧ r.ns = ns := by simpa using hp
      exact .drained
  | deregisterWorker target ns =>
      refine commitWorkers_change e db workerId _ (fun _ => rfl) fun r _ hp => ?_
      obtain ⟨rfl, rfl⟩ : r.workerId = target ∧ r.ns = ns := by simpa using hp
      exact .deregistered
  | markStaleOffline secs =>
      refine commitWorkers_change e db workerId _ (fun _ => rfl) fun r _ hp => ?_
      obtain ⟨hs, hlt⟩ : r.status ≠ .offline ∧ r.lastHeartbeatAt < e.now - seconds secs := by
        simpa using hp
      exact .stale hs hlt
  | _ => cases hspare

/-- What a statement does to a worker. -/
theorem Stmt.exec_worker (e : Env) (q : Stmt) (db : Db) (workerId : Uuid) :
    WorkerChange e q (db.worker workerId) ((q.exec e db).2.worker workerId) := by
  rcases q.exec_cases e db with h | h
  · rw [h]
    exact .same
  · rw [h]
    exact q.sql_worker e db workerId

end Kagzi
