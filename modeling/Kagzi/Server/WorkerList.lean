import Kagzi.Server.Listing
import Kagzi.Store.WorkerChange

/-!
# Workers in lists

`list_workers` and `get_worker` of the admin service with the queries behind them.  They
only read, so a handler is a function of the database and its request.

A page is sorted by the id of the worker, the greatest first, and its token is the text of
the last id.
-/

namespace Kagzi

/-! ## The query -/

structure ListWorkersParams where
  ns : String
  taskQueue : Option String
  filterStatus : Option WorkerStatus
  pageSize : Int
  cursor : Option Uuid

/-- The conditions on the namespace, the queue and the status. -/
def WorkerRow.isOf (ns : String) (taskQueue : Option String) (filterStatus : Option WorkerStatus)
    (r : WorkerRow) : Bool :=
  r.ns = ns && taskQueue.all (fun q => r.taskQueue = q) && filterStatus.all fun s => r.status = s

/-- `list` of the worker repository. -/
def WorkerRepository.list (params : ListWorkersParams) (db : Db) : PaginatedResult WorkerRow Uuid :=
  let matching := db.workers.rows.filter fun r =>
    r.isOf params.ns params.taskQueue params.filterStatus && params.cursor.all fun c =>
      r.workerId < c
  let sorted := matching.insertionSort fun a b => b.workerId ≤ a.workerId
  let rows := sorted.take (max params.pageSize 1 + 1).toNat
  let hasMore : Bool := rows.length > asUsize params.pageSize
  let items := rows.take (asUsize params.pageSize)
  { items := items
    nextCursor := if hasMore then items.getLast?.map WorkerRow.workerId else none
    hasMore := hasMore }

/-- `count` of the worker repository. -/
def WorkerRepository.count (ns : String) (taskQueue : Option String)
    (filterStatus : Option WorkerStatus) (db : Db) : Nat :=
  db.workers.rows.countP (WorkerRow.isOf ns taskQueue filterStatus)

/-! ## The handlers -/

/-- A `Worker` message, without the labels and the limits. -/
structure Worker where
  workerId : String
  taskQueue : String
  status : WorkerStatus
  hostname : String
  pid : Int
  version : String
  workflowTypes : List String
  registeredAt : Int
  lastHeartbeatAt : Int
deriving DecidableEq

/-- `worker_to_proto`. -/
def workerToProto (cfg : Config) (w : WorkerRow) : Worker :=
  { workerId := cfg.uuidText w.workerId
    taskQueue := w.taskQueue
    status := w.status
    hostname := w.hostname.getD ""
    pid := w.pid.getD 0
    version := w.version.getD ""
    workflowTypes := w.workflowTypes
    registeredAt := w.registeredAt
    lastHeartbeatAt := w.lastHeartbeatAt }

/-- `normalize_worker_status`. -/
def normalizeWorkerStatus : Option Int → Except Status (Option WorkerStatus)
  | none => .ok none
  | some raw =>
      if raw = 0 then .ok none
      else if raw = 1 then .ok (some .online)
      else if raw = 2 then .ok (some .draining)
      else if raw = 3 then .ok (some .offline)
      else .error (invalidArgumentError "Invalid status_filter")

structure ListWorkersRequest where
  ns : String
  taskQueue : Option String
  statusFilter : Option Int
  page : Option PageRequest

/-- The cursor that a page token stands for. -/
def workerCursor (cfg : Config) (token : String) : Except Status (Option Uuid) :=
  if token = "" then .ok none
  else
    match cfg.parseUuid token with
    | some id => .ok (some id)
    | none => .error invalidPageToken

/-- `list_workers`. -/
def AdminService.listWorkers (cfg : Config) (req : ListWorkersRequest) (db : Db) :
    Except Status (ListResponse Worker) := do
  let page := req.page.getD .default
  let ns ← required req.ns "namespace"
  let pageSize := normalizePageSize page.pageSize 20 100
  let cursor ← workerCursor cfg page.pageToken
  let filterStatus ← normalizeWorkerStatus req.statusFilter
  let taskQueue := req.taskQueue.filter fun t => t ≠ ""
  let result := WorkerRepository.list ⟨ns, taskQueue, filterStatus, pageSize, cursor⟩ db
  let totalCount := if page.includeTotalCount then WorkerRepository.count ns taskQueue filterStatus
      db else 0
  .ok
    { items := result.items.map (workerToProto cfg)
      page := ⟨(result.nextCursor.map cfg.uuidText).getD "", result.hasMore, totalCount⟩ }

/-- `get_worker`. -/
def AdminService.getWorker (cfg : Config) (workerText : String) (db : Db) : Except Status Worker :=
  match cfg.parseUuid workerText with
  | none => .error (invalidArgumentError "Invalid worker_id")
  | some workerId =>
      match db.worker workerId with
      | some w => .ok (workerToProto cfg w)
      | none => .error (notFoundError "Worker not found" "worker" workerText)

end Kagzi
