import Mathlib.Data.List.Dedup
import Kagzi.Server.Listing

/-!
# Namespaces in lists and numbers

The queries of the namespace repository that only read, with their handlers:
`list_namespaces`, `list_workflow_types` and `get_stats`.  A handler is a function of the
tables and its request.

The names are sorted, and compared with a cursor, in the collation of the database, which
is any linear order on texts.
-/

namespace Kagzi

open Relational

/-! ## Names -/

/-- A text that the database compares. -/
structure Collated where
  text : String
deriving DecidableEq

/-- A row of `namespaces` with all its columns. -/
structure Namespace extends NamespaceRow where
  id : Uuid
  displayName : String
  description : Option String
  createdAt : Int
deriving DecidableEq

def Namespace.collated (r : Namespace) : Collated := ⟨r.name⟩

/-- `namespaces_pkey` and `namespaces_namespace_key`. -/
def Namespace.Clash (r r' : Namespace) : Prop := r.id = r'.id ∨ r.name = r'.name

instance : Row Namespace where
  Clash := Namespace.Clash
  Valid _ := True
  clash_symm := fun h => h.imp Eq.symm Eq.symm
  decClash := fun _ _ => inferInstanceAs (Decidable (_ ∨ _))
  decValid := fun _ => inferInstance

/-- The page size of the queries: `clamp(1, 100)`. -/
def pageLimit (pageSize : Int) : Nat := asUsize (max 1 (min pageSize 100))

/-! ## The queries -/

structure WorkflowTypeInfo where
  workflowType : String
  totalRuns : Nat
  activeRuns : Nat
  taskQueues : List String
deriving DecidableEq

structure WorkflowStatusCount where
  status : WorkflowStatus
  count : Nat
deriving DecidableEq

structure WorkflowTypeCount where
  workflowType : String
  totalRuns : Nat
  activeRuns : Nat
  taskQueues : List String
deriving DecidableEq

structure NamespaceStats where
  totalWorkflows : Nat
  pendingWorkflows : Nat
  runningWorkflows : Nat
  completedWorkflows : Nat
  failedWorkflows : Nat
  totalWorkers : Nat
  onlineWorkers : Nat
  totalSchedules : Nat
  enabledSchedules : Nat
  workflowsByStatus : List WorkflowStatusCount
  workflowsByType : List WorkflowTypeCount
deriving DecidableEq

namespace NamespaceRepository

/-- The runs of a namespace. -/
def runsOf (ns : String) (db : Db) : List RunRow := db.runs.rows.filter fun r => r.ns = ns

/-- The runs of a namespace that have a type. -/
def group (ns workflowType : String) (db : Db) : List RunRow :=
  (runsOf ns db).filter fun r => r.workflowType = workflowType

section Lists
variable [LinearOrder Collated]

/-- `list`. -/
def list (pageSize : Int) (cursor : Option String) (namespaces : Table Namespace) :
    PaginatedResult Namespace String :=
  let limit := pageLimit pageSize
  let found := namespaces.rows.filter fun r => cursor.all fun c => Collated.mk c < r.collated
  let items := (found.insertionSort fun a b => a.collated ≤ b.collated).take limit
  { items := items
    nextCursor := items.getLast?.map fun r => r.name
    hasMore := items.length = limit }

/-- The row of `list_workflow_types` for one type.  The task queues are any fifty. -/
def workflowTypeInfo (ns : String) (db : Db) (workflowType : Collated) : WorkflowTypeInfo where
  workflowType := workflowType.text
  totalRuns := (group ns workflowType.text db).length
  activeRuns := (group ns workflowType.text db).countP fun r => !r.status.isTerminal
  taskQueues := ((group ns workflowType.text db).map RunRow.taskQueue).dedup.take 50

/-- The types of the runs of a namespace. -/
def workflowTypes (ns : String) (db : Db) : List Collated :=
  ((runsOf ns db).map fun r => Collated.mk r.workflowType).dedup

/-- `list_workflow_types`. -/
def listWorkflowTypes (ns : String) (pageSize : Int) (cursor : Option String) (db : Db) :
    PaginatedResult WorkflowTypeInfo String :=
  let limit := pageLimit pageSize
  let found := (workflowTypes ns db).filter fun t => cursor.all fun c => Collated.mk c < t
  let types := (found.insertionSort fun a b => a ≤ b).take limit
  let items := types.map (workflowTypeInfo ns db)
  { items := items
    nextCursor := items.getLast?.map WorkflowTypeInfo.workflowType
    hasMore := items.length = limit }

end Lists

/-- The number of runs with a status among the counts. -/
def countOf (status : WorkflowStatus) (counts : List WorkflowStatusCount) : Nat :=
  ((counts.find? fun c => c.status = status).map WorkflowStatusCount.count).getD 0

/-- `get_stats`.  The types are in no particular order. -/
def getStats (ns : String) (db : Db) : NamespaceStats :=
  let byStatus := ((runsOf ns db).map RunRow.status).dedup.map fun status =>
    { status := status, count := (runsOf ns db).countP fun r => r.status = status }
  let byType := ((runsOf ns db).map RunRow.workflowType).dedup.map fun workflowType =>
    { workflowType := workflowType
      totalRuns := (group ns workflowType db).length
      activeRuns := (group ns workflowType db).countP fun r => !r.status.isTerminal
      taskQueues := ((group ns workflowType db).map RunRow.taskQueue).dedup }
  let workers := db.workers.rows.filter fun w => w.ns = ns
  let schedules := (runsOf ns db).countP fun r => r.status = .scheduled && r.scheduleId.isSome
  { totalWorkflows := (byType.map WorkflowTypeCount.totalRuns).sum
    pendingWorkflows := countOf .pending byStatus
    runningWorkflows := countOf .running byStatus
    completedWorkflows := countOf .completed byStatus
    failedWorkflows := countOf .failed byStatus
    totalWorkers := workers.countP fun w => w.status ≠ .offline
    onlineWorkers := workers.countP fun w => w.status = .online
    totalSchedules := schedules
    enabledSchedules := schedules
    workflowsByStatus := byStatus
    workflowsByType := byType }

end NamespaceRepository

/-! ## The handlers -/

structure ProtoNamespace where
  id : String
  ns : String
  displayName : String
  description : String
  enabled : Bool
  createdAt : Int
  updatedAt : Int
deriving DecidableEq

/-- `namespace_to_proto`. -/
def namespaceToProto (cfg : Config) (r : Namespace) : ProtoNamespace where
  id := cfg.uuidText r.id
  ns := r.name
  displayName := r.displayName
  description := r.description.getD ""
  enabled := r.enabled
  createdAt := r.createdAt
  updatedAt := r.updatedAt

structure ListNamespacesRequest where
  page : Option PageRequest

structure ListWorkflowTypesRequest where
  ns : String
  page : Option PageRequest

/-- The page of a request that has to have one. -/
def requiredPage (page : Option PageRequest) : Except Status PageRequest :=
  match page with
  | some page => .ok page
  | none => .error (invalidArgumentError "page is required")

/-- The name that a token is, unless it is empty. -/
def nameCursor (token : String) : Option String := if token = "" then none else some token

section Lists
variable [LinearOrder Collated]

/-- `list_namespaces`. -/
def NamespaceService.listNamespaces (cfg : Config) (req : ListNamespacesRequest)
    (namespaces : Table Namespace) : Except Status (ListResponse ProtoNamespace) := do
  let page ← requiredPage req.page
  let pageSize := normalizePageSize page.pageSize 20 100
  let result := NamespaceRepository.list pageSize (nameCursor page.pageToken) namespaces
  .ok
    { items := result.items.map (namespaceToProto cfg)
      page := ⟨result.nextCursor.getD "", result.hasMore, 0⟩ }

/-- `list_workflow_types`. -/
def AdminService.listWorkflowTypes (req : ListWorkflowTypesRequest) (db : Db) :
    Except Status (ListResponse WorkflowTypeInfo) := do
  let ns ← required req.ns "namespace"
  let page ← requiredPage req.page
  let pageSize := normalizePageSize page.pageSize 20 100
  let result := NamespaceRepository.listWorkflowTypes ns pageSize (nameCursor page.pageToken) db
  .ok
    { items := result.items
      page := ⟨result.nextCursor.getD "", result.hasMore, 0⟩ }

end Lists

/-- The answer of `get_stats`, with its maps as lists of pairs. -/
structure GetStatsResponse where
  totalWorkflows : Nat
  pendingWorkflows : Nat
  runningWorkflows : Nat
  completedWorkflows : Nat
  failedWorkflows : Nat
  totalWorkers : Nat
  onlineWorkers : Nat
  totalSchedules : Nat
  enabledSchedules : Nat
  workflowsByStatus : List (WorkflowStatus × Nat)
  workflowsByType : List (String × Nat)
deriving DecidableEq

/-- `get_stats` of the admin service.  Without a namespace it is that of the namespace
`default`. -/
def AdminService.getStats (ns : Option String) (db : Db) : GetStatsResponse :=
  let stats := NamespaceRepository.getStats (ns.getD "default") db
  { totalWorkflows := stats.totalWorkflows
    pendingWorkflows := stats.pendingWorkflows
    runningWorkflows := stats.runningWorkflows
    completedWorkflows := stats.completedWorkflows
    failedWorkflows := stats.failedWorkflows
    totalWorkers := stats.totalWorkers
    onlineWorkers := stats.onlineWorkers
    totalSchedules := stats.totalSchedules
    enabledSchedules := stats.enabledSchedules
    workflowsByStatus := stats.workflowsByStatus.map fun c => (c.status, c.count)
    workflowsByType := stats.workflowsByType.map fun c => (c.workflowType, c.totalRuns) }

end Kagzi
