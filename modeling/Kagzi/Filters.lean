import Kagzi.Paging

/-!
# Listing filters

The requests of `list_workflows` and `list_workflow_schedules` have more filters than the
handlers look at.  `list_workflows` passes the namespace and the status to its two queries,
and nothing reads the type, the queue and the two times.  `list_workflow_schedules` asks for
the runs that are `SCHEDULED`, whichever their queue, so that a paused template is in no
list.

`honoured_iff` says for which tables that makes no difference.  A count is of all runs with
the status, so a single run that does not fit makes it wrong.  For schedules the pages come
in as well: a client that chooses the size of each page sees every row that is listed, and
following the tokens of pages of one gets each template only if no two are too close.
-/

namespace Kagzi

open Keyset OrderDual Paging

namespace Filters

/-! ## The requests with all their filters -/

/-- A point in time of a request. -/
structure Timestamp where
  seconds : Int
  nanos : Int

def Timestamp.nanoseconds (t : Timestamp) : Int := t.seconds * 1000000000 + t.nanos

/-- `ListWorkflowsRequest`. -/
structure ListWorkflowsRequest extends Kagzi.ListWorkflowsRequest where
  workflowType : Option String
  taskQueue : Option String
  createdAfter : Option Timestamp
  createdBefore : Option Timestamp

/-- `ListWorkflowSchedulesRequest`. -/
structure ListWorkflowSchedulesRequest extends Kagzi.ListWorkflowSchedulesRequest where
  taskQueue : Option String

/-- `list_workflows`, which does not read the other fields. -/
def listWorkflows (cfg : Config) (base64 : Base64) (now : Int) (req : ListWorkflowsRequest)
    (db : Db) : Except Status (ListResponse Workflow) :=
  WorkflowService.listWorkflows cfg base64 now req.toListWorkflowsRequest db

/-- `list_workflow_schedules`, which does not read the task queue. -/
def listWorkflowSchedules (cfg : Config) (base64 : Base64) (req : ListWorkflowSchedulesRequest)
    (db : Db) : Except Status (ListResponse WorkflowSchedule) :=
  ScheduleService.listWorkflowSchedules cfg base64 req.toListWorkflowSchedulesRequest db

/-! ## What is claimed -/

namespace ListWorkflowsRequest

/-- The run is of the namespace, and has the status. -/
def asks (req : ListWorkflowsRequest) (r : RunRow) : Bool :=
  r.ns = req.ns && req.statusFilter.all fun n => protoWorkflowStatus n = some (some r.status)

/-- The run passes the other filters. -/
def fits (req : ListWorkflowsRequest) (r : RunRow) : Bool :=
  (req.workflowType.all fun t => r.workflowType = t) &&
    (req.taskQueue.all fun q => r.taskQueue = q) &&
    (req.createdAfter.all fun t => r.createdAt.any fun c => t.nanoseconds < 1000 * c) &&
    req.createdBefore.all fun t => r.createdAt.any fun c => 1000 * c < t.nanoseconds

/-- The run satisfies every filter of the request. -/
def wants (req : ListWorkflowsRequest) (r : RunRow) : Bool := req.asks r && req.fits r

/-- The request for another page. -/
def onPage (req : ListWorkflowsRequest) (page : Option PageRequest) : ListWorkflowsRequest :=
  { req with page := page }

end ListWorkflowsRequest

/-- On every page are only runs that satisfy the filters, and the total count is the number
of them. -/
structure WorkflowsHonoured (cfg : Config) (base64 : Base64) (now : Int)
    (req : ListWorkflowsRequest) (db : Db) : Prop where
  only : ∀ page resp, listWorkflows cfg base64 now (req.onPage page) db = .ok resp →
    ∀ x ∈ resp.items, ∃ r ∈ db.runs.rows, req.wants r = true ∧ ∃ w, db.joined r = some w ∧
      x = WorkflowService.workflowToProto cfg w (w.createdAt.getD now)
  count : ∀ page resp, listWorkflows cfg base64 now (req.onPage page) db = .ok resp →
    (page.getD .default).includeTotalCount = true →
      resp.page.totalCount = db.runs.rows.countP req.wants

namespace ListWorkflowSchedulesRequest

/-- The run is a template of the namespace with the task queue, paused or not. -/
def wants (req : ListWorkflowSchedulesRequest) (r : RunRow) : Bool :=
  r.ns = req.ns && r.status.isScheduleTemplate && r.cronExpr.isSome &&
    req.taskQueue.all fun q => r.taskQueue = q

/-- The request for another page. -/
def onPage (req : ListWorkflowSchedulesRequest) (page : Option PageRequest) :
    ListWorkflowSchedulesRequest :=
  { req with page := page }

end ListWorkflowSchedulesRequest

/-- Each page that can be asked for is answered, with only templates that satisfy the
filters, and a client that follows the tokens gets all of them. -/
structure SchedulesHonoured (cfg : Config) (base64 : Base64) (req : ListWorkflowSchedulesRequest)
    (db : Db) : Prop where
  answered : ∀ page cursor, cursorOf cfg base64 (ScheduleService.pageOf page).2 = .ok cursor →
    ∃ resp, listWorkflowSchedules cfg base64 (req.onPage page) db = .ok resp
  only : ∀ page resp, listWorkflowSchedules cfg base64 (req.onPage page) db = .ok resp →
    ∀ x ∈ resp.items, ∃ r ∈ db.runs.rows, req.wants r = true ∧ x.scheduleId = cfg.uuidText r.runId
  every : ∀ size total, ∃ n out, follow (fun token =>
      seen (listWorkflowSchedules cfg base64 (req.onPage (some ⟨size, token, total⟩)) db)) n "" = some out ∧
    ∀ r ∈ db.runs.rows, req.wants r = true → ∃ x ∈ out, x.scheduleId = cfg.uuidText r.runId

/-! ## The conditions -/

/-- Every run that is asked for by namespace and status passes the other filters. -/
def AllFit (req : ListWorkflowsRequest) (db : Db) : Prop :=
  ∀ r ∈ db.runs.rows, req.asks r = true → req.fits r = true

/-- The scheduled runs with a payload are the templates that are asked for, and a template
that is older than another one is older than the millisecond of that one. -/
structure AllWanted (req : ListWorkflowSchedulesRequest) (db : Db) : Prop where
  wanted : ∀ r ∈ db.runs.rows, r.ns = req.ns → r.status = .scheduled →
    (db.payloads.get? r.runId).isSome → req.wants r = true
  scheduled : ∀ r ∈ db.runs.rows, req.wants r = true →
    r.status = .scheduled ∧ (db.payloads.get? r.runId).isSome
  apart : ∀ b ∈ db.runs.rows, ∀ r ∈ db.runs.rows, req.wants b = true → req.wants r = true →
    r.sortKey < b.sortKey → r.sortKey < cutKey b.sortKey

/-! ## Runs -/

section Workflows
variable {cfg : Config} {base64 : Base64} {now : Int} {req : ListWorkflowsRequest} {db : Db}

/-- A run that is listed is a row that the query selects. -/
theorem mem_list {params : ListWorkflowsParams} {w : WorkflowRun}
    (h : w ∈ (WorkflowRepository.list params db).items) :
    ∃ r ∈ db.runs.rows, params.selects r = true ∧ db.joined r = some w := by
  have hsorted := List.mem_of_mem_take (List.mem_of_mem_take h)
  rw [List.mem_insertionSort] at hsorted
  obtain ⟨r, hr, hj⟩ := List.mem_filterMap.mp hsorted
  obtain ⟨hr, hselects⟩ := List.mem_filter.mp hr
  exact ⟨r, hr, (Bool.and_eq_true_iff.mp hselects).1, hj⟩

theorem ok_of_bind {α β : Type} {x : Except Status α} {f : α → Except Status β} {b : β}
    (h : x >>= f = .ok b) : ∃ a, x = .ok a ∧ f a = .ok b := by
  cases x with
  | error _ => cases h
  | ok a => exact ⟨a, rfl, h⟩

/-- The status that the queries select by stands for the filter of the request. -/
def Stands (filterStatus : Option (Option WorkflowStatus)) (statusFilter : Option Int) : Prop :=
  ∀ s : WorkflowStatus, (filterStatus.all fun x => x = some s) =
    statusFilter.all fun n => protoWorkflowStatus n = some (some s)

theorem stands_some {n : Int} {status : Option WorkflowStatus} (h : protoWorkflowStatus n = some status) :
    Stands (some status) (some n) := by
  intro s
  simp [h]

/-- An answer of `list_workflows` has what the two queries return. -/
theorem listWorkflows_ok {page : Option PageRequest} {resp : ListResponse Workflow}
    (h : listWorkflows cfg base64 now (req.onPage page) db = .ok resp) :
    req.ns ≠ "" ∧ ∃ filterStatus cursor, Stands filterStatus req.statusFilter ∧
      resp.items = (WorkflowRepository.list ⟨req.ns, filterStatus,
        normalizePageSize (page.getD .default).pageSize 20 100, cursor, none⟩ db).items.map
          (fun w => WorkflowService.workflowToProto cfg w (w.createdAt.getD now)) ∧
      resp.page.totalCount = if (page.getD .default).includeTotalCount then
        WorkflowRepository.count req.ns filterStatus db else 0 := by
  obtain ⟨ns, hns, h⟩ := ok_of_bind h
  obtain ⟨cursor, -, h⟩ := ok_of_bind h
  obtain ⟨hne, rfl⟩ : req.ns ≠ "" ∧ req.ns = ns := by
    unfold required at hns
    split at hns
    · cases hns
    next hne => exact ⟨hne, Except.ok.inj hns⟩
  refine ⟨hne, ?_⟩
  simp only [ListWorkflowsRequest.onPage] at h
  cases hfilter : req.statusFilter with
  | none =>
      rw [hfilter] at h
      obtain rfl := Except.ok.inj h
      exact ⟨none, cursor, fun _ => rfl, rfl, rfl⟩
  | some n =>
      rw [hfilter] at h
      cases hstatus : protoWorkflowStatus n with
      | none => simp [hstatus, bind, Except.bind] at h
      | some status =>
          simp only [hstatus] at h
          obtain rfl := Except.ok.inj h
          exact ⟨some status, cursor, stands_some hstatus, rfl, rfl⟩

/-- The first page is answered if it is asked for any run. -/
theorem listWorkflows_first {r : RunRow} (hns : req.ns ≠ "") (h : req.asks r = true) :
    ∃ resp, listWorkflows cfg base64 now (req.onPage (some ⟨1, "", true⟩)) db = .ok resp := by
  have hrequired : required req.ns "namespace" = .ok req.ns := if_neg hns
  simp only [ListWorkflowsRequest.asks, Bool.and_eq_true] at h
  simp only [listWorkflows, ListWorkflowsRequest.onPage, WorkflowService.listWorkflows, hrequired]
  cases hfilter : req.statusFilter with
  | none => exact ⟨_, rfl⟩
  | some n =>
      have hstatus : protoWorkflowStatus n = some (some r.status) := by simpa [hfilter] using h.2
      simp only [hstatus]
      exact ⟨_, rfl⟩

/-- The rows that the queries select are those of the namespace with the status. -/
theorem selects_eq {filterStatus : Option (Option WorkflowStatus)} {pageSize : Int}
    {cursor : Option (Int × Uuid)} {r : RunRow} (h : Stands filterStatus req.statusFilter) :
    ListWorkflowsParams.selects ⟨req.ns, filterStatus, pageSize, cursor, none⟩ r = req.asks r := by
  simp only [ListWorkflowsParams.selects, ListWorkflowsRequest.asks, h r.status, Option.all_none,
    Bool.and_true]

theorem count_eq {filterStatus : Option (Option WorkflowStatus)}
    (h : Stands filterStatus req.statusFilter) :
    WorkflowRepository.count req.ns filterStatus db = db.runs.rows.countP req.asks := by
  simp only [WorkflowRepository.count, h _]
  rfl

/-- As many elements satisfy both as satisfy the first, if none that does misses the second. -/
theorem countP_and_eq_iff {α : Type} {p q : α → Bool} {xs : List α} :
    xs.countP (fun x => p x && q x) = xs.countP p ↔ ∀ x ∈ xs, p x = true → q x = true := by
  have hsplit : xs.countP p = xs.countP (fun x => p x && q x) + xs.countP (fun x => p x && !q x) := by
    rw [List.countP_eq_countP_filter_add xs p q]
    simp only [List.countP_filter]
  rw [hsplit, Nat.left_eq_add, List.countP_eq_zero]
  refine forall₂_congr fun x _ => ?_
  cases p x <;> cases q x <;> simp

/-- The filters of `list_workflows` are honoured exactly if every run that is asked for by
namespace and status passes the others. -/
theorem workflowsHonoured_iff :
    WorkflowsHonoured cfg base64 now req db ↔ (req.ns ≠ "" → AllFit req db) := by
  constructor
  · intro hhonoured hns r hr hasks
    obtain ⟨resp, hresp⟩ : ∃ resp, listWorkflows cfg base64 now
        (req.onPage (some ⟨1, "", true⟩)) db = .ok resp := listWorkflows_first hns hasks
    obtain ⟨-, filterStatus, cursor, hstands, -, htotal⟩ := listWorkflows_ok hresp
    have hcount : resp.page.totalCount = db.runs.rows.countP req.wants :=
      hhonoured.count _ _ hresp rfl
    rw [hcount, Option.getD_some, if_pos rfl, count_eq hstands] at htotal
    exact countP_and_eq_iff.mp htotal r hr hasks
  · intro hfit
    constructor
    · intro page resp hresp x hx
      obtain ⟨hns, filterStatus, cursor, hstands, hitems, -⟩ := listWorkflows_ok hresp
      rw [hitems] at hx
      obtain ⟨w, hw, rfl⟩ := List.mem_map.mp hx
      obtain ⟨r, hr, hselects, hj⟩ := mem_list hw
      rw [selects_eq hstands] at hselects
      exact ⟨r, hr, by simp [ListWorkflowsRequest.wants, hselects, hfit hns r hr hselects], w, hj, rfl⟩
    · intro page resp hresp htotal
      obtain ⟨hns, filterStatus, cursor, hstands, -, hcount⟩ := listWorkflows_ok hresp
      rw [hcount, if_pos htotal, count_eq hstands]
      exact (countP_and_eq_iff.mpr (hfit hns)).symm

end Workflows

/-! ## Schedules -/

section Schedules
variable {cfg : Config} {base64 : Base64} {req : ListWorkflowSchedulesRequest} {db : Db}

/-- What the handler asks the repository for. -/
def scheduledRuns (ns : String) (pageSize : Int) : ListWorkflowsParams :=
  ⟨ns, some (some .scheduled), pageSize, none, none⟩

/-- The handler lists the scheduled runs of the namespace. -/
theorem lists_schedules (hns : req.ns ≠ "") (size : Int) (total : Bool) :
    ListsRuns cfg base64 (scheduledRuns req.ns (normalizePageSize size 100 500)) db
      (ScheduleService.workflowRunToScheduleProto cfg)
      (fun token => listWorkflowSchedules cfg base64 (req.onPage (some ⟨size, token, total⟩)) db) :=
  lists_listWorkflowSchedules hns size total

/-- A request without a page is one for the first page of the default size. -/
theorem exists_page (req : ListWorkflowSchedulesRequest) (page : Option PageRequest) : ∃ size token total,
    (ScheduleService.pageOf page).2 = token ∧
      listWorkflowSchedules cfg base64 (req.onPage page) db =
        listWorkflowSchedules cfg base64 (req.onPage (some ⟨size, token, total⟩)) db := by
  cases page with
  | none => exact ⟨0, "", false, rfl, rfl⟩
  | some page => exact ⟨page.pageSize, page.pageToken, page.includeTotalCount, rfl, rfl⟩

theorem selects_scheduled {ns : String} {pageSize : Int} {r : RunRow} :
    (scheduledRuns ns pageSize).selects r = true ↔ r.ns = ns ∧ r.status = .scheduled := by
  change (decide (r.ns = ns) && decide (some .scheduled = some r.status) && true) = true ↔ _
  simp [@eq_comm _ WorkflowStatus.scheduled]

theorem mem_scheduled {pageSize : Int} {w : WorkflowRun} :
    w ∈ listed (scheduledRuns req.ns pageSize) db ↔ w.toRunRow ∈ db.runs.rows ∧
      w.ns = req.ns ∧ w.status = .scheduled ∧ db.joined w.toRunRow = some w := by
  rw [mem_listed]
  constructor
  · rintro ⟨r, hr, hselects, hj⟩
    obtain rfl := Db.joined_toRunRow hj
    obtain ⟨hns, hstatus⟩ := selects_scheduled.mp hselects
    exact ⟨hr, hns, hstatus, hj⟩
  · rintro ⟨hr, hns, hstatus, hj⟩
    exact ⟨w.toRunRow, hr, selects_scheduled.mpr ⟨hns, hstatus⟩, hj⟩

/-- A row with a payload is listed with it. -/
theorem exists_joined {r : RunRow} (h : (db.payloads.get? r.runId).isSome) :
    ∃ w, db.joined r = some w ∧ w.toRunRow = r := by
  obtain ⟨p, hp⟩ := Option.isSome_iff_exists.mp h
  exact ⟨{ r with input := p.input, output := p.output }, by simp [Db.joined, hp], rfl⟩

theorem payload_of_joined {r : RunRow} {w : WorkflowRun} (h : db.joined r = some w) :
    (db.payloads.get? r.runId).isSome := by
  obtain ⟨p, hp, -⟩ := Option.map_eq_some_iff.mp h
  rw [hp]
  rfl

/-- The rows on the page that a cursor leads to. -/
def rowsAt (req : ListWorkflowSchedulesRequest) (db : Db) (size : Int) (c : Option SortKeyᵒᵈ) :
    List WorkflowRun :=
  (runPage (scheduledRuns req.ns (normalizePageSize size 100 500)) db c).items

theorem mem_rowsAt {size : Int} {c : Option SortKeyᵒᵈ} {w : WorkflowRun} (hw : w ∈ rowsAt req db size c) :
    w ∈ listed (scheduledRuns req.ns (normalizePageSize size 100 500)) db :=
  mem_of_page hw

/-- An answer is made of the rows of its page. -/
theorem answer_eq (hns : req.ns ≠ "") {token : String} {cursor : Option (Int × Uuid)}
    (hcursor : cursorOf cfg base64 token = .ok cursor) (size : Int) (total : Bool) :
    (listWorkflowSchedules cfg base64 (req.onPage (some ⟨size, token, total⟩)) db).map
        ListResponse.items =
      (rowsAt req db size (cursor.map fun c => toDual (cursorKey c))).mapM
        (ScheduleService.workflowRunToScheduleProto cfg) := by
  let params := { scheduledRuns req.ns (normalizePageSize size 100 500) with cursor := cursor }
  have hsize : 0 < params.pageSize ∧ params.pageSize < 2 ^ 31 :=
    normalizePageSize_bounds (by decide) (by decide) (by decide) (by decide)
  have hitems : (WorkflowRepository.list params db).items =
      rowsAt req db size (cursor.map fun c => toDual (cursorKey c)) := (list_eq hsize).1
  have hlists : ListsRuns cfg base64 (scheduledRuns req.ns (normalizePageSize size 100 500)) db _ _ :=
    lists_schedules hns size total
  have hanswer := hlists.answer token cursor hcursor
  change _ = Except.map _ ((WorkflowRepository.list params db).items.mapM _) at hanswer
  rw [hitems] at hanswer
  generalize listWorkflowSchedules cfg base64 (req.onPage (some ⟨size, token, total⟩)) db = answer at *
  generalize (rowsAt req db size (cursor.map fun c => toDual (cursorKey c))).mapM
    (ScheduleService.workflowRunToScheduleProto cfg) = made at *
  cases answer <;> cases made <;> simp_all [seen, Except.map]

theorem scheduleId_eq {w : WorkflowRun} {x : WorkflowSchedule}
    (h : ScheduleService.workflowRunToScheduleProto cfg w = .ok x) :
    x.scheduleId = cfg.uuidText w.runId := by
  unfold ScheduleService.workflowRunToScheduleProto at h
  split at h <;> cases h
  rfl

/-- What is made of a row that is listed tells which row it is. -/
theorem eq_of_scheduleId {pageSize : Int} {w : WorkflowRun} {r : RunRow} {x : WorkflowSchedule}
    (hread : ∀ r ∈ db.runs.rows, r.ns = req.ns → Readable cfg base64 r.createdAt r.runId)
    (hw : w ∈ listed (scheduledRuns req.ns pageSize) db)
    (hx : ScheduleService.workflowRunToScheduleProto cfg w = .ok x) (hr : r ∈ db.runs.rows)
    (hns : r.ns = req.ns) (hid : x.scheduleId = cfg.uuidText r.runId) : w.toRunRow = r := by
  obtain ⟨hrow, hwns, -, -⟩ := mem_scheduled.mp hw
  have hwid := (hread _ hrow hwns).uuid
  rw [← scheduleId_eq hx, hid, (hread r hr hns).uuid] at hwid
  exact db.runs.eq_of_clash hrow hr (.inl (Option.some.inj hwid).symm)

theorem answer_ok (hns : req.ns ≠ "") {token : String} {cursor : Option (Int × Uuid)}
    (hcursor : cursorOf cfg base64 token = .ok cursor) {size : Int} {total : Bool}
    {resp : ListResponse WorkflowSchedule}
    (h : listWorkflowSchedules cfg base64 (req.onPage (some ⟨size, token, total⟩)) db = .ok resp) :
    (rowsAt req db size (cursor.map fun c => toDual (cursorKey c))).mapM
      (ScheduleService.workflowRunToScheduleProto cfg) = .ok resp.items := by
  rw [← answer_eq hns hcursor size total, h]
  rfl

/-- What a list of schedules is made of, if its rows all have an expression. -/
theorem made_iff (hread : ∀ r ∈ db.runs.rows, r.ns = req.ns → Readable cfg base64 r.createdAt r.runId)
    {pageSize : Int} {w : WorkflowRun} (hw : w ∈ listed (scheduledRuns req.ns pageSize) db) :
    (∃ x, ScheduleService.workflowRunToScheduleProto cfg w = .ok x) ↔ w.cronExpr.isSome := by
  obtain ⟨hrow, hwns, hstatus, hj⟩ := mem_scheduled.mp hw
  exact schedule_iff hrow hstatus (hread _ hrow hwns) hj

theorem wants_iff {r : RunRow} : req.wants r = true ↔ r.ns = req.ns ∧
    r.status.isScheduleTemplate = true ∧ r.cronExpr.isSome ∧
      (req.taskQueue.all fun q => r.taskQueue = q) = true := by
  simp [ListWorkflowSchedulesRequest.wants, and_assoc]

/-- The tokens of pages of one lead over all rows that are listed, if the filters are
honoured. -/
theorem SchedulesHonoured.all_listed (h : SchedulesHonoured cfg base64 req db) (hns : req.ns ≠ "")
    (hread : ∀ r ∈ db.runs.rows, r.ns = req.ns → Readable cfg base64 r.createdAt r.runId) :
    (∃ n, walk (page (fun w => newestFirst w.toRunRow) cutDown 1 (listed (scheduledRuns req.ns 1) db)) n
      none = some (listed (scheduledRuns req.ns 1) db)) ∧
    (∀ w ∈ listed (scheduledRuns req.ns 1) db, req.wants w.toRunRow = true) ∧
    ∀ r ∈ db.runs.rows, req.wants r = true → ∃ w ∈ listed (scheduledRuns req.ns 1) db, w.toRunRow = r := by
  obtain ⟨n, out, hout, hevery⟩ := h.every 1 false
  have hlists : ListsRuns cfg base64 (scheduledRuns req.ns 1) db _ _ := lists_schedules hns 1 false
  rw [hlists.follow_eq fun r hr hselects => hread r hr (selects_scheduled.mp hselects).1] at hout
  obtain ⟨ws, hws, hmade⟩ := Option.bind_eq_some_iff.mp hout
  change walk (page (fun w => newestFirst w.toRunRow) cutDown 1 (listed (scheduledRuns req.ns 1) db)) n
    none = some ws at hws
  have hmem : ∀ w ∈ ws, w ∈ listed (scheduledRuns req.ns 1) db := fun w hw => mem_of_walk hws hw
  -- each template is among what the client got
  have hgot : ∀ r ∈ db.runs.rows, req.wants r = true → ∃ w ∈ ws, w.toRunRow = r := by
    intro r hr hwants
    obtain ⟨x, hx, hid⟩ := hevery r hr hwants
    have hok : ws.mapM (ScheduleService.workflowRunToScheduleProto cfg) = .ok out := by
      generalize ws.mapM (ScheduleService.workflowRunToScheduleProto cfg) = made at hmade
      cases made with
      | error _ => cases hmade
      | ok _ => exact congrArg Except.ok (Option.some.inj hmade)
    obtain ⟨w, hw, hwx⟩ := (mem_mapM hok).2 x hx
    exact ⟨w, hw, eq_of_scheduleId hread (hmem w hw) hwx hr (wants_iff.mp hwants).1 hid⟩
  have hones := walk_ones (G := fun c => Held cfg base64 (c.map ofDual))
    (S := fun w => req.wants w.toRunRow = true) (ordered_sorted (joined_distinct db _))
    (fun w _ => cutKey_le w.sortKey) (fun w hw => ?_) (fun c hc w hw => ?_)
    (List.nil_append _).symm filter_beyond_none held_none hws (fun w hw hwants => ?_)
  · obtain ⟨rfl, hall⟩ := hones
    exact ⟨⟨n, hws⟩, hall, hgot⟩
  · obtain ⟨hrow, hwns, -⟩ := mem_scheduled.mp hw
    exact held_cut (hread _ hrow hwns)
  · -- a page of two is answered, with templates that are wanted
    obtain ⟨cursor, hcursor, hkey⟩ := cursorOf_tokenOf hc
    obtain rfl : c = cursor.map fun x => toDual (cursorKey x) := by
      cases c <;> cases cursor <;> simp_all
    change w ∈ rowsAt req db 2 (cursor.map fun x => toDual (cursorKey x)) at hw
    obtain ⟨resp, hresp⟩ := h.answered (some ⟨2, _, false⟩) cursor hcursor
    obtain ⟨x, hx, hwx⟩ := (mem_mapM (answer_ok hns hcursor hresp)).1 w hw
    obtain ⟨r, hr, hwants, hid⟩ := h.only _ _ hresp x hx
    rwa [eq_of_scheduleId hread (mem_rowsAt hw) hwx hr (wants_iff.mp hwants).1 hid]
  · obtain ⟨hrow, -, -, hj⟩ := mem_scheduled.mp hw
    obtain ⟨w', hw', heq⟩ := hgot _ hrow hwants
    obtain ⟨-, -, -, hj'⟩ := mem_scheduled.mp (hmem w' hw')
    rw [heq, hj] at hj'
    rwa [Option.some.inj hj']

/-- A page that is answered has a token that can be read. -/
theorem cursor_of_ok {size : Int} {token : String} {total : Bool} {resp : ListResponse WorkflowSchedule}
    (h : listWorkflowSchedules cfg base64 (req.onPage (some ⟨size, token, total⟩)) db = .ok resp) :
    ∃ cursor, cursorOf cfg base64 token = .ok cursor := by
  obtain ⟨ns, -, h⟩ := ok_of_bind h
  obtain ⟨cursor, hcursor, -⟩ := ok_of_bind h
  exact ⟨cursor, hcursor⟩

section Wanted
variable (hall : AllWanted req db)
include hall

theorem AllWanted.wants {pageSize : Int} {w : WorkflowRun}
    (hw : w ∈ listed (scheduledRuns req.ns pageSize) db) : req.wants w.toRunRow = true := by
  obtain ⟨hr, hwns, hstatus, hj⟩ := mem_scheduled.mp hw
  exact hall.wanted _ hr hwns hstatus (payload_of_joined hj)

theorem AllWanted.made
    (hread : ∀ r ∈ db.runs.rows, r.ns = req.ns → Readable cfg base64 r.createdAt r.runId)
    {pageSize : Int} {w : WorkflowRun} (hw : w ∈ listed (scheduledRuns req.ns pageSize) db) :
    ∃ x, ScheduleService.workflowRunToScheduleProto cfg w = .ok x :=
  (made_iff hread hw).mpr (wants_iff.mp (hall.wants hw)).2.2.1

/-- A walk in pages of any size goes over all rows. -/
theorem AllWanted.exists_walk {pageSize : Int} (hsize : 0 < pageSize.toNat) :
    ∃ n, walk (page (fun w => newestFirst w.toRunRow) cutDown pageSize.toNat
      (listed (scheduledRuns req.ns pageSize) db)) n none = some (listed (scheduledRuns req.ns pageSize) db) := by
  have hordered : Ordered (fun w => newestFirst w.toRunRow) (listed (scheduledRuns req.ns pageSize) db) :=
    ordered_sorted (joined_distinct db _)
  refine (exists_walk_iff hordered hsize).mpr fun b r hboundary => ⟨cutKey_le b.sortKey, ?_⟩
  obtain ⟨hb, hr⟩ := hboundary.mem
  exact hall.apart _ (mem_scheduled.mp hb).1 _ (mem_scheduled.mp hr).1 (hall.wants hb)
    (hall.wants hr) (hboundary.lt hordered hsize)

theorem AllWanted.honoured (hns : req.ns ≠ "")
    (hread : ∀ r ∈ db.runs.rows, r.ns = req.ns → Readable cfg base64 r.createdAt r.runId) :
    SchedulesHonoured cfg base64 req db := by
  constructor
  · intro page cursor hcursor
    obtain ⟨size, token, total, rfl, hpage⟩ := exists_page req page
    rw [hpage]
    have hmade : ∀ w ∈ rowsAt req db size (cursor.map fun c => toDual (cursorKey c)),
        ∃ x, ScheduleService.workflowRunToScheduleProto cfg w = .ok x := fun w hw =>
      hall.made hread (mem_rowsAt hw)
    obtain ⟨items, hitems⟩ := exists_mapM hmade
    have hanswer := (answer_eq hns hcursor size total).trans hitems
    generalize listWorkflowSchedules cfg base64 (req.onPage (some ⟨size, _, total⟩)) db = answer at *
    cases answer with
    | error _ => cases hanswer
    | ok resp => exact ⟨resp, rfl⟩
  · intro page resp hresp x hx
    obtain ⟨size, token, total, -, hpage⟩ := exists_page req page
    rw [hpage] at hresp
    obtain ⟨cursor, hcursor⟩ := cursor_of_ok hresp
    obtain ⟨w, hw, hwx⟩ := (mem_mapM (answer_ok hns hcursor hresp)).2 x hx
    exact ⟨w.toRunRow, (mem_scheduled.mp (mem_rowsAt hw)).1, hall.wants (mem_rowsAt hw), scheduleId_eq hwx⟩
  · intro size total
    have hlists : ListsRuns cfg base64 (scheduledRuns req.ns (normalizePageSize size 100 500)) db _ _ :=
      lists_schedules hns size total
    obtain ⟨n, hn⟩ := hall.exists_walk (Int.pos_iff_toNat_pos.mp hlists.size.1)
    obtain ⟨out, hout⟩ := exists_mapM fun w hw => hall.made hread hw
    refine ⟨n, out, ?_, fun r hr hwants => ?_⟩
    · rw [hlists.follow_eq fun r hr hselects => hread r hr (selects_scheduled.mp hselects).1]
      exact Option.bind_eq_some_iff.mpr ⟨_, hn, by rw [hout]; rfl⟩
    · obtain ⟨hstatus, hpaid⟩ := hall.scheduled r hr hwants
      obtain ⟨w, hj, rfl⟩ := exists_joined hpaid
      obtain ⟨x, hx, hwx⟩ := (mem_mapM hout).1 w
        (mem_scheduled.mpr ⟨hr, (wants_iff.mp hwants).1, hstatus, hj⟩)
      exact ⟨x, hx, scheduleId_eq hwx⟩

end Wanted

theorem SchedulesHonoured.allWanted (h : SchedulesHonoured cfg base64 req db) (hns : req.ns ≠ "")
    (hread : ∀ r ∈ db.runs.rows, r.ns = req.ns → Readable cfg base64 r.createdAt r.runId) :
    AllWanted req db := by
  obtain ⟨hwalk, hwanted, hlisted⟩ := h.all_listed hns hread
  have hordered := ordered_sorted (joined_distinct db (scheduledRuns req.ns 1).selects)
  have hends := (exists_walk_iff hordered (Nat.succ_pos 0)).mp hwalk
  constructor
  · intro r hr hrns hstatus hpaid
    obtain ⟨w, hj, rfl⟩ := exists_joined hpaid
    exact hwanted w (mem_scheduled.mpr ⟨hr, hrns, hstatus, hj⟩)
  · intro r hr hwants
    obtain ⟨w, hw, rfl⟩ := hlisted r hr hwants
    obtain ⟨-, -, hstatus, hj⟩ := mem_scheduled.mp hw
    exact ⟨hstatus, payload_of_joined hj⟩
  · intro b hb r hr hwants hwants' hlt
    obtain ⟨wb, hwb, rfl⟩ := hlisted b hb hwants
    obtain ⟨wr, hwr, rfl⟩ := hlisted r hr hwants'
    exact lt_of_boundary_one hordered (fun b r h => (hends b r h).2) hwb hwr hlt

end Schedules

/-! ## A table with a template and its instance -/

/-- The requests for the type and the queue of the template. -/
def runsOfType (workflowType : String) : ListWorkflowsRequest :=
  ⟨⟨"ns", none, none⟩, some workflowType, none, none, none⟩

def schedulesOfQueue (taskQueue : String) : ListWorkflowSchedulesRequest :=
  ⟨⟨"ns", none⟩, some taskQueue⟩

/-- Runs of another type are counted, and the template of another queue is listed. -/
theorem other_type_and_queue :
    ¬ WorkflowsHonoured .sample sampleBase64 0 (runsOfType "other") sampleDb ∧
      ¬ SchedulesHonoured .sample sampleBase64 (schedulesOfQueue "other") sampleDb := by
  constructor
  · intro h
    have hfit := workflowsHonoured_iff.mp h (by decide)
    revert hfit
    unfold AllFit
    decide +kernel
  · intro h
    have hwanted := (h.allWanted (by decide) fun r hr _ => sample_readable r hr).wanted
    revert hwanted
    decide +kernel

/-- The filters of `list_workflows` are honoured exactly if every run that is asked for by
namespace and status passes the others; those of `list_workflow_schedules` exactly if the
scheduled runs are the templates that are asked for, and no two of them are too close. -/
theorem honoured_iff (cfg : Config) (base64 : Base64) (now : Int) (db : Db)
    (runs : ListWorkflowsRequest) (schedules : ListWorkflowSchedulesRequest)
    (hread : ∀ r ∈ db.runs.rows, r.ns = schedules.ns → Readable cfg base64 r.createdAt r.runId) :
    (WorkflowsHonoured cfg base64 now runs db ↔ (runs.ns ≠ "" → AllFit runs db)) ∧
      ((schedules.ns ≠ "" → SchedulesHonoured cfg base64 schedules db) ↔
        (schedules.ns ≠ "" → AllWanted schedules db)) :=
  ⟨workflowsHonoured_iff, forall_congr' fun hns =>
    ⟨fun h => h.allWanted hns hread, fun h => h.honoured hns hread⟩⟩

theorem honoured_of_template :
    WorkflowsHonoured .sample sampleBase64 0 (runsOfType "type") sampleDb ∧
      SchedulesHonoured .sample sampleBase64 (schedulesOfQueue "queue") sampleDb := by
  have hiff := honoured_iff .sample sampleBase64 0 sampleDb (runsOfType "type")
    (schedulesOfQueue "queue") fun r hr _ => sample_readable r hr
  refine ⟨hiff.1.mpr fun _ => ?_, hiff.2.mpr (fun _ => ⟨?_, ?_, ?_⟩) (by decide)⟩
  · unfold AllFit
    decide +kernel
  · decide +kernel
  · decide +kernel
  · decide +kernel

end Filters

end Kagzi
