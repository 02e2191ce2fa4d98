import Kagzi.Store.Step

/-!
# Statements on workers and namespaces

The SQL of `postgres/worker.rs`, and of `get_or_create`, `enable` and `disable`
of `postgres/namespace.rs`.
-/

namespace Kagzi

open Relational

/-- `RegisterWorkerParams`, without the labels, which are only shown, and the limits, which are
not stored. -/
structure RegisterWorkerParams where
  ns : String
  taskQueue : String
  workflowTypes : List String
  hostname : Option String
  pid : Option Int
  version : Option String
deriving DecidableEq

namespace WorkerRow

/-- The row the `ON CONFLICT` clause of `register` takes for the same worker. -/
def sameProcess (params : RegisterWorkerParams) (r : WorkerRow) : Bool :=
  r.status ≠ .offline && r.ns = params.ns && r.taskQueue = params.taskQueue &&
    decide (SameKey r.hostname params.hostname) && decide (SameKey r.pid params.pid)

/-- The `DO UPDATE` of `register`. -/
def reregister (params : RegisterWorkerParams) (now : Int) (r : WorkerRow) : WorkerRow :=
  { r with
    version := params.version
    workflowTypes := params.workflowTypes
    status := .online
    deregisteredAt := none
    lastHeartbeatAt := now }

/-- `start_drain`. -/
def drain (r : WorkerRow) : WorkerRow := { r with status := .draining }

/-- `deregister` and `mark_stale_offline`. -/
def offline (now : Int) (r : WorkerRow) : WorkerRow :=
  { r with status := .offline, deregisteredAt := some now }

/-- The row `register` inserts. -/
def registered (params : RegisterWorkerParams) (workerId : Uuid) (now : Int) : WorkerRow :=
  { workerId := workerId
    ns := params.ns
    taskQueue := params.taskQueue
    hostname := params.hostname
    pid := params.pid
    version := params.version
    workflowTypes := params.workflowTypes
    status := .online
    registeredAt := now
    lastHeartbeatAt := now
    deregisteredAt := none }

end WorkerRow

/-- Update the workers that satisfy `p` and answer `a`. -/
def Db.commitWorkers {α : Type} (db : Db) (p : WorkerRow → Bool) (f : WorkerRow → WorkerRow)
    (a : α) : Except StoreError α × Db :=
  match db.workers.update? p f with
  | some workers => (.ok a, { db with workers := workers })
  | none => (.error (violation false), db)

/-- `register`. -/
def registerWorker (params : RegisterWorkerParams) : Sql Uuid := fun e db =>
  match db.workers.rows.find? (WorkerRow.sameProcess params) with
  | some r =>
      db.commitWorkers (fun x => x.workerId = r.workerId) (WorkerRow.reregister params e.now)
        r.workerId
  | none =>
      if (db.namespaces.get? params.ns).isSome then
        match db.workers.insert? (WorkerRow.registered params e.fresh e.now) with
        | some workers => (.ok e.fresh, { db with workers := workers })
        | none => (.error (violation false), db)
      else (.error foreignKey, db)

/-- `heartbeat`. -/
def heartbeatWorker (workerId : Uuid) : Sql Bool := fun e db =>
  let p : WorkerRow → Bool := fun r => r.workerId = workerId && r.status ≠ .offline
  db.commitWorkers p (fun r => { r with lastHeartbeatAt := e.now }) (db.workers.rows.any p)

/-- `start_drain`. -/
def startDrain (workerId : Uuid) (ns : String) : Sql Unit := fun _ db =>
  db.commitWorkers (fun r => r.workerId = workerId && r.ns = ns) WorkerRow.drain ()

/-- `deregister`. -/
def deregisterWorker (workerId : Uuid) (ns : String) : Sql Unit := fun e db =>
  db.commitWorkers (fun r => r.workerId = workerId && r.ns = ns) (WorkerRow.offline e.now) ()

/-- `find_by_id` of a worker. -/
def findWorker (workerId : Uuid) : Sql (Option WorkerRow) := fun _ db =>
  (.ok (db.workers.get? workerId), db)

/-- `mark_stale_offline`. -/
def markStaleOffline (thresholdSecs : Int) : Sql Nat := fun e db =>
  let p : WorkerRow → Bool := fun r =>
    r.status ≠ .offline && r.lastHeartbeatAt < e.now - seconds thresholdSecs
  db.commitWorkers p (WorkerRow.offline e.now) (db.workers.rows.countP p)

/-- `find_by_id` of a namespace. -/
def findNamespace (name : String) : Sql (Option NamespaceRow) := fun _ db =>
  (.ok (db.namespaces.get? name), db)

/-- The `INSERT … ON CONFLICT DO UPDATE` of `get_or_create`. -/
def upsertNamespace (name : String) (now : Int) : Sql Unit := fun _ db =>
  match db.namespaces.insert? ⟨name, true, now⟩ with
  | some namespaces => (.ok (), { db with namespaces := namespaces })
  | none =>
      match db.namespaces.update? (fun r => r.name = name) fun r => { r with updatedAt := now } with
      | some namespaces => (.ok (), { db with namespaces := namespaces })
      | none => (.error (violation false), db)

/-- `enable` and `disable`. -/
def setNamespaceEnabled (name : String) (enabled : Bool) (now : Int) : Sql Bool := fun _ db =>
  let p : NamespaceRow → Bool := fun r => r.name = name
  match db.namespaces.update? p fun r => { r with enabled := enabled, updatedAt := now } with
  | some namespaces => (.ok (db.namespaces.rows.any p), { db with namespaces := namespaces })
  | none => (.error (violation false), db)

end Kagzi
