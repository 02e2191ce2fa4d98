import Kagzi.Logic.Keyset
import Kagzi.Server.Listing
import Kagzi.Server.Service
import Kagzi.Store.RunChange

/-!
# Listing page by page

A client that sends the token of each answer again, while there is more, walks over
the rows of a table that stays as it is.  The token holds the time of the last row cut
to milliseconds.  Runs are listed newest first, so a cut cursor can lie before the next
row and skip it; steps are listed oldest first, so a cut cursor lies before the last row
and repeats it.

The two iff theorems say which tables are listed completely for which page sizes.
-/

namespace Kagzi

open Keyset OrderDual

namespace Paging

/-! ## What is claimed -/

/-- An answer, as far as the client follows it. -/
def seen {α : Type} (answer : Except Status (ListResponse α)) :
    Except Status (List α × String × Bool) :=
  answer.map fun resp => (resp.items, resp.page.nextPageToken, resp.page.hasMore)

/-- A client that starts without a token and follows the tokens while there is more
comes to an end, and all it got is `rows`, seen through `textOf`. -/
def Returns {α β : Type} (send : String → Except Status (ListResponse α)) (textOf : α → β)
    (rows : List β) : Prop :=
  ∃ n out, follow (fun token => seen (send token)) n "" = some out ∧ out.map textOf = rows

/-- The key of a run in the descending order. -/
def newestFirst (r : RunRow) : SortKeyᵒᵈ := toDual r.sortKey

/-- The runs that satisfy `p`, newest first. -/
def newest (p : RunRow → Bool) (db : Db) : List RunRow :=
  sorted newestFirst (db.runs.rows.filter p)

/-- The attempts of the steps of a run, oldest first. -/
def oldest (runId : Uuid) (db : Db) : List StepRow :=
  sorted StepRow.sortKey (db.steps.rows.filter fun r => r.runId = runId)

/-- Each page of so many rows ends before a row that is older than the last row is when
its time is cut to milliseconds. -/
def EndsApart (size : Int) (rows : List RunRow) : Prop :=
  ∀ b r, Boundary size.toNat rows b r → r.sortKey < cutKey b.sortKey

/-- Each page of so many rows but the last ends with a row whose time is a whole number
of milliseconds. -/
def EndsWhole (size : Int) (rows : List StepRow) : Prop :=
  ∀ b r, Boundary size.toNat rows b r → cutKey b.sortKey = b.sortKey

/-- A list of runs asks for the payload of each. -/
def AllPaid (db : Db) (rows : List RunRow) : Prop :=
  ∀ r ∈ rows, (db.payloads.get? r.runId).isSome

/-! ## Keys and tokens -/

/-- The token for what comes after a key. -/
def tokenOf (cfg : Config) (base64 : Base64) : Option SortKey → String
  | none => ""
  | some key => nextToken cfg base64 ((ofLex key).1.map fun t => (t, (ofLex key).2))

/-- A cursor that a client can hold. -/
def Held (cfg : Config) (base64 : Base64) (cursor : Option SortKey) : Prop :=
  ∀ key ∈ cursor, ∃ t id, Readable cfg base64 (some t) id ∧ key = cutKey (sortKey (some t) id)

section Tokens
variable {cfg : Config} {base64 : Base64}

@[simp] theorem timestampMillis_ofMillis (ms : Int) :
    timestampMillis (ofMillis ms) = ms := by
  simp [timestampMillis, ofMillis]

theorem cutKey_le (key : SortKey) : cutKey key ≤ key := by
  obtain ⟨createdAt, id⟩ := key
  cases createdAt with
  | top => exact le_refl _
  | coe t =>
      have hle : ofMillis (timestampMillis t) ≤ t := by
        simp only [ofMillis, timestampMillis]
        omega
      exact Prod.Lex.toLex_mono ⟨WithTop.coe_le_coe.mpr hle, le_refl _⟩

/-- The token of the last row of a page is the token of its key, cut. -/
theorem nextToken_eq {createdAt : Option Int} {id : Uuid} (h : Readable cfg base64 createdAt id) :
    nextToken cfg base64 (createdAt.map fun t => (t, id)) =
      tokenOf cfg base64 (some (cutKey (sortKey createdAt id))) := by
  obtain ⟨t, rfl, -⟩ := h.time
  show encodeCursor cfg base64 (timestampMillis t) id =
    encodeCursor cfg base64 (timestampMillis (ofMillis (timestampMillis t))) id
  rw [timestampMillis_ofMillis]

/-- A token is read as the key it was made from. -/
theorem cursorOf_tokenOf {cursor : Option SortKey} (h : Held cfg base64 cursor) :
    ∃ c, cursorOf cfg base64 (tokenOf cfg base64 cursor) = .ok c ∧ c.map cursorKey = cursor := by
  cases cursor with
  | none => exact ⟨none, rfl, rfl⟩
  | some key =>
      obtain ⟨t, id, hread, rfl⟩ := h key rfl
      refine ⟨some (ofMillis (timestampMillis t), id), ?_, rfl⟩
      rw [← nextToken_eq hread]
      exact cursorOf_nextToken hread

theorem held_none : Held cfg base64 none := by simp [Held]

theorem held_cut {createdAt : Option Int} {id : Uuid} (h : Readable cfg base64 createdAt id) :
    Held cfg base64 (some (cutKey (sortKey createdAt id))) := by
  rintro key hkey
  obtain ⟨t, rfl, -⟩ := h.time
  exact ⟨t, id, h, (Option.some.inj hkey).symm⟩

end Tokens

/-! ## Page sizes -/

theorem normalizePageSize_bounds {requested default max : Int} (hdefault : 0 < default)
    (hmax : 0 < max) (h : default < 2 ^ 31) (h' : max < 2 ^ 31) :
    0 < normalizePageSize requested default max ∧
      normalizePageSize requested default max < 2 ^ 31 := by
  unfold normalizePageSize
  split <;> omega

/-! ## Lists of runs -/

section Runs
variable {cfg : Config} {base64 : Base64} {params : ListWorkflowsParams} {db : Db}

/-- The rows a list of runs goes through. -/
def listed (params : ListWorkflowsParams) (db : Db) : List WorkflowRun :=
  sorted (fun w => newestFirst w.toRunRow) ((db.runs.rows.filter params.selects).filterMap db.joined)

/-- What comes back of a key of the descending order. -/
def cutDown (key : SortKeyᵒᵈ) : SortKeyᵒᵈ := toDual (cutKey (ofDual key))

/-- The page after a cursor. -/
def runPage (params : ListWorkflowsParams) (db : Db) (cursor : Option SortKeyᵒᵈ) :
    Page WorkflowRun SortKeyᵒᵈ :=
  page (fun w => newestFirst w.toRunRow) cutDown params.pageSize.toNat (listed params db)
    cursor

theorem sortKey_ne {createdAt createdAt' : Option Int} {id id' : Uuid} (h : id ≠ id') :
    sortKey createdAt id ≠ sortKey createdAt' id' := by
  intro heq
  exact h (Prod.ext_iff.mp (toLex.injective heq)).2

/-- The runs have different keys. -/
theorem runs_distinct (db : Db) (p : RunRow → Bool) :
    (db.runs.rows.filter p).Pairwise fun r r' => newestFirst r ≠ newestFirst r' :=
  (db.runs.distinct.filter p).imp fun hclash =>
    toDual.injective.ne (sortKey_ne fun hid => hclash (.inl hid))

theorem joined_distinct (db : Db) (p : RunRow → Bool) :
    ((db.runs.rows.filter p).filterMap db.joined).Pairwise
      fun w w' => newestFirst w.toRunRow ≠ newestFirst w'.toRunRow := by
  refine List.pairwise_filterMap.mpr ((runs_distinct db p).imp fun hne w hw w' hw' => ?_)
  rwa [Db.joined_toRunRow hw, Db.joined_toRunRow hw']

theorem mem_listed {w : WorkflowRun} :
    w ∈ listed params db ↔
      ∃ r, r ∈ db.runs.rows ∧ params.selects r = true ∧ db.joined r = some w := by
  simp [listed, List.mem_filterMap, List.mem_filter, and_assoc]

/-- The rows beyond a cursor, in their order. -/
theorem listed_beyond (params : ListWorkflowsParams) (db : Db) (cursor : Option (Int × Uuid)) :
    sorted (fun w => newestFirst w.toRunRow) ((db.runs.rows.filter fun r => params.selects r &&
        cursor.all fun c => decide (r.sortKey < cursorKey c)).filterMap db.joined) =
      (listed params db).filter
        (beyond (fun w => newestFirst w.toRunRow) (cursor.map fun c => toDual (cursorKey c))) := by
  rw [listed, ← sorted_filter (joined_distinct db _)]
  congr 1
  rw [List.filter_filterMap, List.filterMap_filter, List.filterMap_filter]
  refine List.filterMap_congr fun r _ => ?_
  cases hj : db.joined r with
  | none => simp
  | some w =>
      obtain rfl := Db.joined_toRunRow hj
      cases cursor <;> cases params.selects w.toRunRow <;>
        simp [Option.filter, beyond, newestFirst, toDual_lt_toDual]

/-- A list of runs is the page after the cursor. -/
theorem list_eq (hsize : 0 < params.pageSize ∧ params.pageSize < 2 ^ 31) :
    (WorkflowRepository.list params db).items =
        (runPage params db (params.cursor.map fun c => toDual (cursorKey c))).items ∧
      (WorkflowRepository.list params db).hasMore =
        (runPage params db (params.cursor.map fun c => toDual (cursorKey c))).hasMore := by
  have husize : asUsize params.pageSize = params.pageSize.toNat := by
    have := asUsize_of_nonneg (le_of_lt hsize.1) hsize.2
    omega
  have hlimit : (params.pageSize + 1).toNat = params.pageSize.toNat + 1 := by omega
  have hrows := listed_beyond params db params.cursor
  simp only [sorted, newestFirst, toDual_le_toDual] at hrows
  simp only [WorkflowRepository.list, runPage, page, newestFirst, husize, hlimit, hrows]
  exact ⟨trivial, rfl⟩

/-- The cursor after a page is made from its last row. -/
theorem next_token (hread : ∀ w ∈ (WorkflowRepository.list params db).items,
    Readable cfg base64 w.createdAt w.runId)
    (hsize : 0 < params.pageSize ∧ params.pageSize < 2 ^ 31) :
    nextToken cfg base64 (WorkflowRepository.list params db).nextCursor =
        tokenOf cfg base64 ((runPage params db
          (params.cursor.map fun c => toDual (cursorKey c))).next.map ofDual) ∧
      Held cfg base64 ((runPage params db
        (params.cursor.map fun c => toDual (cursorKey c))).next.map ofDual) := by
  have hnext : (runPage params db (params.cursor.map fun c => toDual (cursorKey c))).next =
      (WorkflowRepository.list params db).items.getLast?.map
        fun w => cutDown (newestFirst w.toRunRow) := by
    rw [(list_eq hsize).1]
    rfl
  have hcursor : (WorkflowRepository.list params db).nextCursor =
      (WorkflowRepository.list params db).items.getLast?.bind
        fun w => w.createdAt.map fun t => (t, w.runId) := rfl
  rw [hnext, hcursor]
  cases hlast : (WorkflowRepository.list params db).items.getLast? with
  | none => exact ⟨rfl, held_none⟩
  | some w =>
      have hw := hread w (List.mem_of_getLast? hlast)
      exact ⟨nextToken_eq hw, held_cut hw⟩

/-- A handler that lists runs, and makes something of each. -/
structure ListsRuns {α : Type} (cfg : Config) (base64 : Base64) (params : ListWorkflowsParams)
    (db : Db) (make : WorkflowRun → Except Status α)
    (send : String → Except Status (ListResponse α)) : Prop where
  size : 0 < params.pageSize ∧ params.pageSize < 2 ^ 31
  answer : ∀ token cursor, cursorOf cfg base64 token = .ok cursor →
    seen (send token) =
      ((WorkflowRepository.list { params with cursor := cursor } db).items.mapM make).map
        fun items => (items,
          nextToken cfg base64 (WorkflowRepository.list { params with cursor := cursor } db).nextCursor,
          (WorkflowRepository.list { params with cursor := cursor } db).hasMore)

/-- A client of such a handler walks over the rows. -/
theorem ListsRuns.follow_eq {α : Type} {make : WorkflowRun → Except Status α}
    {send : String → Except Status (ListResponse α)}
    (h : ListsRuns cfg base64 params db make send)
    (hread : ∀ r ∈ db.runs.rows, params.selects r = true → Readable cfg base64 r.createdAt r.runId)
    (n : Nat) :
    follow (fun token => seen (send token)) n "" =
      (walk (page (fun w => newestFirst w.toRunRow) cutDown params.pageSize.toNat
        (listed params db)) n none).bind fun rows => (rows.mapM make).toOption := by
  refine Keyset.follow_eq (fun c => tokenOf cfg base64 (c.map ofDual)) (runPage params db)
    (fun c => Held cfg base64 (c.map ofDual)) ?_ n (c := none) held_none
  intro c hc
  obtain ⟨cursor, hcursor, hkey⟩ := cursorOf_tokenOf hc
  have hc : c = cursor.map fun x => toDual (cursorKey x) := by
    cases c <;> cases cursor <;> simp_all
  have hlist : (WorkflowRepository.list { params with cursor := cursor } db).items =
        (runPage params db (cursor.map fun x => toDual (cursorKey x))).items ∧
      (WorkflowRepository.list { params with cursor := cursor } db).hasMore =
        (runPage params db (cursor.map fun x => toDual (cursorKey x))).hasMore := list_eq h.size
  have hreadable : ∀ w ∈ (WorkflowRepository.list { params with cursor := cursor } db).items,
      Readable cfg base64 w.createdAt w.runId := by
    intro w hw
    rw [hlist.1] at hw
    obtain ⟨r, hr, hselects, hj⟩ := mem_listed.mp (mem_of_page hw)
    obtain rfl := Db.joined_toRunRow hj
    exact hread _ hr hselects
  obtain ⟨htoken, hheld⟩ := next_token hreadable h.size
  refine ⟨_, ?_, fun _ => ⟨htoken.trans ?_, ?_⟩⟩
  · rw [h.answer _ cursor hcursor, hlist.1, hlist.2, hc]
  · rw [hc]
    rfl
  · rw [hc]
    exact hheld

theorem ordered_newest (p : RunRow → Bool) (db : Db) :
    Ordered newestFirst (newest p db) := ordered_sorted (runs_distinct db p)

/-- Such a handler lists the runs completely exactly if it can make something of each
of them, and each page ends apart from the row that comes next. -/
theorem ListsRuns.returns_iff {α : Type} {make : WorkflowRun → Except Status α}
    {send : String → Except Status (ListResponse α)} {textOf : α → String}
    (h : ListsRuns cfg base64 params db make send)
    (hread : ∀ r ∈ db.runs.rows, params.selects r = true → Readable cfg base64 r.createdAt r.runId)
    (hmake : ∀ w a, make w = .ok a → textOf a = cfg.uuidText w.runId) :
    Returns send textOf ((newest params.selects db).map fun r => cfg.uuidText r.runId) ↔
      (∀ r ∈ newest params.selects db, ∃ w, db.joined r = some w ∧ ∃ a, make w = .ok a) ∧
        EndsApart params.pageSize (newest params.selects db) := by
  have hmem : ∀ r, r ∈ newest params.selects db ↔ r ∈ db.runs.rows ∧ params.selects r = true := by
    simp [newest, List.mem_filter]
  have hlisted : ∀ w ∈ listed params db, w.toRunRow ∈ newest params.selects db := by
    intro w hw
    obtain ⟨r, hr, hselects, hj⟩ := mem_listed.mp hw
    rw [Db.joined_toRunRow hj]
    exact (hmem r).mpr ⟨hr, hselects⟩
  -- the id of a run tells which it is
  have htells : ∀ r ∈ newest params.selects db, ∀ r' ∈ newest params.selects db,
      cfg.uuidText r.runId = cfg.uuidText r'.runId → r = r' := by
    intro r hr r' hr' heq
    obtain ⟨hr, hselects⟩ := (hmem r).mp hr
    obtain ⟨hr', hselects'⟩ := (hmem r').mp hr'
    have hid := (hread r hr hselects).uuid
    rw [heq, (hread r' hr' hselects').uuid] at hid
    exact db.runs.eq_of_clash hr hr' (.inl (Option.some.inj hid).symm)
  rw [Returns, follow_returns_iff newestFirst WorkflowRun.toRunRow (h.follow_eq hread) (by have := h.size; omega)
    (ordered_newest params.selects db) (ordered_sorted (joined_distinct db _)) hlisted ?_ ?_]
  · refine and_congr ?_ ?_
    · refine forall₂_congr fun r hr => ⟨?_, ?_⟩
      · rintro ⟨w, hw, rfl, hmade⟩
        obtain ⟨r', -, -, hj⟩ := mem_listed.mp hw
        exact ⟨w, Db.joined_toRunRow hj ▸ hj, hmade⟩
      · rintro ⟨w, hj, hmade⟩
        obtain ⟨hr, hselects⟩ := (hmem r).mp hr
        exact ⟨w, mem_listed.mpr ⟨r, hr, hselects, hj⟩, Db.joined_toRunRow hj, hmade⟩
    · refine forall₃_congr fun b r _ => ⟨fun hbetween => hbetween.2, fun hlt => ⟨?_, hlt⟩⟩
      exact cutKey_le b.sortKey
  · intro n ws hws hids
    have hids : (ws.map WorkflowRun.toRunRow).map (fun r => cfg.uuidText r.runId) =
        (newest params.selects db).map fun r => cfg.uuidText r.runId := by
      rwa [List.map_map]
    refine eq_of_map_eq (fun r hr r' hr' => ?_) hids
    obtain ⟨w, hw, rfl⟩ := List.mem_map.mp hr
    exact htells _ (hlisted w (mem_of_walk hws hw)) r' hr'
  · intro w hw a ha
    exact hmake w a ha

end Runs

/-! ## The handlers that list runs -/

theorem mapM_ok {α β : Type} (f : α → β) (xs : List α) :
    xs.mapM (fun x => (.ok (f x) : Except Status β)) = .ok (xs.map f) := List.mapM_pure

section Handlers
variable {cfg : Config} {base64 : Base64} {db : Db} {now : Int} {ns : String}

theorem lists_listWorkflows (hns : ns ≠ "") (size : Int) (total : Bool) :
    ListsRuns cfg base64 ⟨ns, none, normalizePageSize size 20 100, none, none⟩ db
      (fun w => .ok (WorkflowService.workflowToProto cfg w (w.createdAt.getD now)))
      (fun token => WorkflowService.listWorkflows cfg base64 now
        ⟨ns, none, some ⟨size, token, total⟩⟩ db) where
  size := normalizePageSize_bounds (by decide) (by decide) (by decide) (by decide)
  answer := by
    intro token cursor hcursor
    rw [mapM_ok]
    simp [WorkflowService.listWorkflows, required, hns, hcursor, seen, Except.map, bind, Except.bind]

theorem lists_listWorkflowSchedules (hns : ns ≠ "") (size : Int) (total : Bool) :
    ListsRuns cfg base64
      ⟨ns, some (some .scheduled), normalizePageSize size 100 500, none, none⟩ db
      (ScheduleService.workflowRunToScheduleProto cfg)
      (fun token => ScheduleService.listWorkflowSchedules cfg base64
        ⟨ns, some ⟨size, token, total⟩⟩ db) where
  size := normalizePageSize_bounds (by decide) (by decide) (by decide) (by decide)
  answer := by
    intro token cursor hcursor
    simp only [ScheduleService.listWorkflowSchedules, required, hns, ScheduleService.pageOf,
      hcursor, seen, bind, Except.bind, if_false]
    generalize List.mapM (ScheduleService.workflowRunToScheduleProto cfg) _ = schedules
    cases schedules <;> rfl

theorem lists_listScheduleRuns (hns : ns ≠ "") {text : String} {scheduleId : Uuid}
    (hid : cfg.parseUuid text = some scheduleId) (size : Int) (total : Bool) :
    ListsRuns cfg base64 ⟨ns, none, normalizePageSize size 100 500, none, some scheduleId⟩ db
      (fun w => .ok (WorkflowService.workflowToProto cfg w (w.createdAt.getD now)))
      (fun token => ScheduleService.listScheduleRuns cfg base64 now
        ⟨ns, text, some ⟨size, token, total⟩⟩ db) where
  size := normalizePageSize_bounds (by decide) (by decide) (by decide) (by decide)
  answer := by
    intro token cursor hcursor
    rw [mapM_ok]
    simp [ScheduleService.listScheduleRuns, required, hns, hid, ScheduleService.pageOf, hcursor,
      seen, Except.map, bind, Except.bind]

/-- A client that only gets errors comes to no end. -/
theorem not_returns_of_error {α β : Type} {send : String → Except Status (ListResponse α)}
    {textOf : α → β} {rows : List β} {x : Status} (h : send "" = .error x) :
    ¬ Returns send textOf rows := by
  rintro ⟨n, out, hout, -⟩
  cases n with
  | zero => cases hout
  | succ n => simp [follow, seen, h, Except.map] at hout

/-- Something can be made of each of the runs if each has its payload, and the rest of
what that takes. -/
theorem convertible_iff {α : Type} {make : WorkflowRun → Except Status α} {rows : List RunRow}
    {G : RunRow → Prop}
    (h : ∀ r ∈ rows, ∀ w, db.joined r = some w → ((∃ a, make w = .ok a) ↔ G r)) :
    (∀ r ∈ rows, ∃ w, db.joined r = some w ∧ ∃ a, make w = .ok a) ↔
      AllPaid db rows ∧ ∀ r ∈ rows, G r := by
  rw [AllPaid, ← forall₂_and]
  refine forall₂_congr fun r hr => ?_
  cases hpayload : db.payloads.get? r.runId with
  | none => simp [Db.joined, hpayload]
  | some p =>
      have hjoined : db.joined r = some { r with input := p.input, output := p.output } := by
        simp [Db.joined, hpayload]
      simp [hjoined, h r hr _ hjoined]

/-- A template is answered with if it has an expression. -/
theorem schedule_iff {r : RunRow} {w : WorkflowRun} (hr : r ∈ db.runs.rows)
    (hstatus : r.status = .scheduled) (hread : Readable cfg base64 r.createdAt r.runId)
    (hj : db.joined r = some w) :
    (∃ a, ScheduleService.workflowRunToScheduleProto cfg w = .ok a) ↔ r.cronExpr.isSome := by
  obtain rfl := Db.joined_toRunRow hj
  obtain ⟨t, hcreated, -⟩ := hread.time
  have havailable : w.availableAt.isSome = true := by
    have hvalid : w.toRunRow.Valid := db.runs.valid _ hr
    simpa [hstatus, WorkflowStatus.isTerminal] using hvalid.1
  obtain ⟨fireAt, hfire⟩ := Option.isSome_iff_exists.mp havailable
  cases hcron : w.cronExpr <;>
    simp [ScheduleService.workflowRunToScheduleProto, hcron, hfire, hcreated]

theorem returns_listWorkflows (hns : ns ≠ "") (size : Int) (total : Bool)
    (hread : ∀ r ∈ db.runs.rows, r.ns = ns → Readable cfg base64 r.createdAt r.runId) :
    Returns (fun token => WorkflowService.listWorkflows cfg base64 now
          ⟨ns, none, some ⟨size, token, total⟩⟩ db) Workflow.runId
        ((newest (fun r => r.ns = ns) db).map fun r => cfg.uuidText r.runId) ↔
      AllPaid db (newest (fun r => r.ns = ns) db) ∧
        EndsApart (normalizePageSize size 20 100) (newest (fun r => r.ns = ns) db) := by
  have hselects : ListWorkflowsParams.selects
      ⟨ns, none, normalizePageSize size 20 100, none, none⟩ = fun r => decide (r.ns = ns) := by
    funext r
    simp [ListWorkflowsParams.selects]
  have hmake : ∀ w a, (.ok (WorkflowService.workflowToProto cfg w (w.createdAt.getD now)) :
      Except Status Workflow) = .ok a → a.runId = cfg.uuidText w.runId := by
    rintro w a ⟨⟩
    rfl
  have hiff := (lists_listWorkflows hns size total).returns_iff
    (fun r hr h => hread r hr (by simpa [hselects] using h)) hmake
  rw [hselects, convertible_iff (G := fun _ => True)] at hiff
  · simpa using hiff
  · simp

theorem returns_listWorkflowSchedules (hns : ns ≠ "") (size : Int) (total : Bool)
    (hread : ∀ r ∈ db.runs.rows, r.ns = ns → Readable cfg base64 r.createdAt r.runId) :
    Returns (fun token => ScheduleService.listWorkflowSchedules cfg base64
          ⟨ns, some ⟨size, token, total⟩⟩ db) WorkflowSchedule.scheduleId
        ((newest (fun r => r.ns = ns ∧ r.status = .scheduled) db).map
          fun r => cfg.uuidText r.runId) ↔
      (AllPaid db (newest (fun r => r.ns = ns ∧ r.status = .scheduled) db) ∧
        ∀ r ∈ newest (fun r => r.ns = ns ∧ r.status = .scheduled) db, r.cronExpr.isSome) ∧
        EndsApart (normalizePageSize size 100 500)
          (newest (fun r => r.ns = ns ∧ r.status = .scheduled) db) := by
  have hselects : ListWorkflowsParams.selects
      ⟨ns, some (some .scheduled), normalizePageSize size 100 500, none, none⟩ =
        fun r => decide (r.ns = ns ∧ r.status = .scheduled) := by
    funext r
    simp [ListWorkflowsParams.selects, eq_comm]
  have hmake : ∀ w a, ScheduleService.workflowRunToScheduleProto cfg w = .ok a →
      a.scheduleId = cfg.uuidText w.runId := by
    intro w a ha
    unfold ScheduleService.workflowRunToScheduleProto at ha
    split at ha <;> cases ha
    rfl
  have hiff := (lists_listWorkflowSchedules hns size total).returns_iff
    (fun r hr h => hread r hr (by simp only [hselects, decide_eq_true_eq] at h; exact h.1)) hmake
  rw [hselects, convertible_iff (G := fun r => r.cronExpr.isSome)] at hiff
  · exact hiff
  · intro r hr w hj
    obtain ⟨hr, hstatus⟩ : r ∈ db.runs.rows ∧ r.ns = ns ∧ r.status = .scheduled := by
      simpa [newest, List.mem_filter] using hr
    exact schedule_iff hr hstatus.2 (hread r hr hstatus.1) hj

theorem returns_listScheduleRuns (hns : ns ≠ "") {text : String} {scheduleId : Uuid}
    (hid : cfg.parseUuid text = some scheduleId) (size : Int) (total : Bool)
    (hread : ∀ r ∈ db.runs.rows, r.ns = ns → Readable cfg base64 r.createdAt r.runId) :
    Returns (fun token => ScheduleService.listScheduleRuns cfg base64 now
          ⟨ns, text, some ⟨size, token, total⟩⟩ db) Workflow.runId
        ((newest (fun r => r.ns = ns ∧ r.scheduleId = some scheduleId) db).map
          fun r => cfg.uuidText r.runId) ↔
      AllPaid db (newest (fun r => r.ns = ns ∧ r.scheduleId = some scheduleId) db) ∧
        EndsApart (normalizePageSize size 100 500)
          (newest (fun r => r.ns = ns ∧ r.scheduleId = some scheduleId) db) := by
  have hselects : ListWorkflowsParams.selects
      ⟨ns, none, normalizePageSize size 100 500, none, some scheduleId⟩ =
        fun r => decide (r.ns = ns ∧ r.scheduleId = some scheduleId) := by
    funext r
    simp [ListWorkflowsParams.selects]
  have hmake : ∀ w a, (.ok (WorkflowService.workflowToProto cfg w (w.createdAt.getD now)) :
      Except Status Workflow) = .ok a → a.runId = cfg.uuidText w.runId := by
    rintro w a ⟨⟩
    rfl
  have hiff := (lists_listScheduleRuns hns hid size total).returns_iff
    (fun r hr h => hread r hr (by simp only [hselects, decide_eq_true_eq] at h; exact h.1)) hmake
  rw [hselects, convertible_iff (G := fun _ => True)] at hiff
  · simpa using hiff
  · simp

end Handlers

/-! ## Lists of steps -/

section Steps
variable {cfg : Config} {base64 : Base64} {params : ListStepsParams} {db : Db}

/-- The rows a list of steps goes through. -/
def attempts (params : ListStepsParams) (db : Db) : List StepRow :=
  sorted StepRow.sortKey (db.steps.rows.filter params.selects)

/-- The page after a cursor. -/
def stepPage (params : ListStepsParams) (db : Db) (cursor : Option SortKey) :
    Page StepRow SortKey :=
  page StepRow.sortKey cutKey params.pageSize.toNat (attempts params db) cursor

theorem steps_distinct (db : Db) (p : StepRow → Bool) :
    (db.steps.rows.filter p).Pairwise fun r r' => r.sortKey ≠ r'.sortKey :=
  (db.steps.distinct.filter p).imp fun hclash =>
    sortKey_ne fun hid => hclash (.inl hid)

theorem mem_attempts {r : StepRow} :
    r ∈ attempts params db ↔ r ∈ db.steps.rows ∧ params.selects r = true := by
  simp [attempts, List.mem_filter]

/-- The times of the rows are times that a token can hold. -/
def StepsReadable (cfg : Config) (base64 : Base64) (params : ListStepsParams) (db : Db) : Prop :=
  ∀ r ∈ db.steps.rows, params.selects r = true → Readable cfg base64 r.createdAt r.attemptId

/-- A list of steps is the page after the cursor. -/
theorem stepList_eq (hread : StepsReadable cfg base64 params db)
    (hsize : 0 < params.pageSize ∧ params.pageSize < 2 ^ 31) :
    (StepRepository.list params db).items =
        (stepPage params db (params.cursor.map cursorKey)).items ∧
      (StepRepository.list params db).hasMore =
        (stepPage params db (params.cursor.map cursorKey)).hasMore := by
  have husize : asUsize (max params.pageSize 1) = params.pageSize.toNat := by
    rw [max_eq_left (by omega)]
    have := asUsize_of_nonneg (le_of_lt hsize.1) hsize.2
    omega
  have hrows : ((db.steps.rows.filter fun r => params.selects r && r.beyond params.cursor).insertionSort
      fun a b => a.sortKey ≤ b.sortKey) =
        (attempts params db).filter (beyond StepRow.sortKey (params.cursor.map cursorKey)) := by
    rw [attempts, ← sorted_filter (steps_distinct db _), List.filter_filter]
    show sorted StepRow.sortKey _ = _
    congr 1
    refine List.filter_congr fun r hr => ?_
    cases hselects : params.selects r with
    | false => simp
    | true =>
        obtain ⟨t, ht, -⟩ := (hread r hr hselects).time
        cases params.cursor <;> simp [StepRow.beyond, beyond, ht]
  simp only [StepRepository.list, stepPage, page, husize, hrows, and_self]

/-- The cursor after a page that is not the last is made from its last row. -/
theorem next_stepToken (hread : StepsReadable cfg base64 params db)
    (hsize : 0 < params.pageSize ∧ params.pageSize < 2 ^ 31)
    (hmore : (StepRepository.list params db).hasMore = true) :
    nextToken cfg base64 (StepRepository.list params db).nextCursor =
        tokenOf cfg base64 (stepPage params db (params.cursor.map cursorKey)).next ∧
      Held cfg base64 (stepPage params db (params.cursor.map cursorKey)).next := by
  have hitems := (stepList_eq hread hsize).1
  have hnext : (stepPage params db (params.cursor.map cursorKey)).next =
      (StepRepository.list params db).items.getLast?.map fun r => cutKey r.sortKey := by
    rw [hitems]
    rfl
  have hcursor : (StepRepository.list params db).nextCursor =
      (StepRepository.list params db).items.getLast?.bind
        fun r => r.createdAt.map fun t => (t, r.attemptId) := if_pos hmore
  rw [hnext, hcursor]
  cases hlast : (StepRepository.list params db).items.getLast? with
  | none => exact ⟨rfl, held_none⟩
  | some r =>
      have hr : r ∈ attempts params db := mem_of_page (hitems ▸ List.mem_of_getLast? hlast)
      obtain ⟨hr, hselects⟩ := mem_attempts.mp hr
      exact ⟨nextToken_eq (hread r hr hselects), held_cut (hread r hr hselects)⟩

/-- The answer of `list_steps` for a run that there is. -/
theorem listSteps_answer {text token : String} {runId : Uuid} {run : RunRow}
    {cursor : Option (Int × Uuid)} (hid : cfg.parseUuid text = some runId)
    (hrun : db.run runId = some run) (hcursor : cursorOf cfg base64 token = .ok cursor)
    (size : Int) (total : Bool) :
    let result := StepRepository.list
      ⟨runId, run.ns, none, normalizePageSize size 50 100, cursor⟩ db
    seen (AdminService.listSteps cfg base64 ⟨text, none, some ⟨size, token, total⟩⟩ db) =
      .ok (result.items.map (WorkerService.stepToProto cfg),
        nextToken cfg base64 result.nextCursor, result.hasMore) := by
  simp [AdminService.listSteps, hid, hrun, hcursor, seen, Except.map, bind, Except.bind]

/-- A client of `list_steps` walks over the steps of the run in its namespace. -/
theorem follow_listSteps {text : String} {runId : Uuid} {run : RunRow}
    (hid : cfg.parseUuid text = some runId) (hrun : db.run runId = some run)
    (hread : ∀ r ∈ db.steps.rows, r.runId = runId → Readable cfg base64 r.createdAt r.attemptId)
    (size : Int) (total : Bool) (n : Nat) :
    follow (fun token => seen (AdminService.listSteps cfg base64
        ⟨text, none, some ⟨size, token, total⟩⟩ db)) n "" =
      (walk (page StepRow.sortKey cutKey (normalizePageSize size 50 100).toNat
        (attempts ⟨runId, run.ns, none, normalizePageSize size 50 100, none⟩ db)) n none).bind
        fun rows => (rows.mapM fun r =>
          (.ok (WorkerService.stepToProto cfg r) : Except Status Step)).toOption := by
  have hsize : 0 < normalizePageSize size 50 100 ∧ normalizePageSize size 50 100 < 2 ^ 31 :=
    normalizePageSize_bounds (by decide) (by decide) (by decide) (by decide)
  refine Keyset.follow_eq (tokenOf cfg base64)
    (stepPage ⟨runId, run.ns, none, normalizePageSize size 50 100, none⟩ db) (Held cfg base64) ?_ n
    (c := none) held_none
  intro c hc
  obtain ⟨cursor, hcursor, rfl⟩ := cursorOf_tokenOf hc
  have hreadable : StepsReadable cfg base64
      ⟨runId, run.ns, none, normalizePageSize size 50 100, cursor⟩ db := by
    intro r hr hselects
    simp only [ListStepsParams.selects, Bool.and_eq_true, decide_eq_true_eq] at hselects
    exact hread r hr hselects.1.1
  have hlist := stepList_eq hreadable hsize
  have hanswer := listSteps_answer hid hrun hcursor size total
  refine ⟨_, ?_, fun hmore => next_stepToken hreadable hsize (hlist.2.trans hmore)⟩
  rw [hanswer, mapM_ok, hlist.1, hlist.2]
  rfl

theorem ordered_oldest (runId : Uuid) (db : Db) : Ordered StepRow.sortKey (oldest runId db) :=
  ordered_sorted (steps_distinct db _)

/-- A client of `list_steps` gets each step once exactly if the steps are in the
namespace of their run, and each page but the last ends at a whole millisecond. -/
theorem returns_listSteps {text : String} {runId : Uuid} {run : RunRow}
    (hid : cfg.parseUuid text = some runId) (hrun : db.run runId = some run) (size : Int)
    (total : Bool)
    (hread : ∀ r ∈ db.steps.rows, r.runId = runId → Readable cfg base64 r.createdAt r.attemptId) :
    Returns (fun token => AdminService.listSteps cfg base64
        ⟨text, none, some ⟨size, token, total⟩⟩ db) id
      ((oldest runId db).map (WorkerService.stepToProto cfg)) ↔
    (∀ r ∈ oldest runId db, r.ns = run.ns) ∧
      EndsWhole (normalizePageSize size 50 100) (oldest runId db) := by
  have hselects : ListStepsParams.selects
      ⟨runId, run.ns, none, normalizePageSize size 50 100, none⟩ =
        fun r => decide (r.runId = runId ∧ r.ns = run.ns) := by
    funext r
    simp [ListStepsParams.selects]
  have hsize : 0 < normalizePageSize size 50 100 ∧ normalizePageSize size 50 100 < 2 ^ 31 :=
    normalizePageSize_bounds (by decide) (by decide) (by decide) (by decide)
  have hold : ∀ r, r ∈ oldest runId db ↔ r ∈ db.steps.rows ∧ r.runId = runId := by
    simp [oldest, List.mem_filter]
  have hattempts : ∀ r, r ∈ attempts ⟨runId, run.ns, none, normalizePageSize size 50 100, none⟩ db ↔
      r ∈ oldest runId db ∧ r.ns = run.ns := by
    simp [mem_attempts, hold, hselects, and_assoc]
  have hordered := ordered_sorted
    (steps_distinct db (ListStepsParams.selects ⟨runId, run.ns, none, normalizePageSize size 50 100, none⟩))
  rw [Returns, follow_returns_iff StepRow.sortKey id (follow_listSteps hid hrun hread size total)
    (by omega) (ordered_oldest runId db) hordered (fun r hr => ((hattempts r).mp hr).1) ?_ ?_]
  · refine and_congr (forall₂_congr fun r hr => ?_) (forall₃_congr fun b r hboundary => ?_)
    · simp [hattempts, hr]
    · have hlt := hboundary.lt (ordered_oldest runId db) (by omega)
      constructor
      · rintro ⟨hle, -⟩
        exact le_antisymm (cutKey_le _) hle
      · intro heq
        rw [heq]
        exact ⟨le_refl _, hlt⟩
  · intro n ws hws hprotos
    -- each step is listed, so it is in the namespace
    have hall : attempts ⟨runId, run.ns, none, normalizePageSize size 50 100, none⟩ db =
        oldest runId db := by
      refine hordered.eq_of_mem_iff (ordered_oldest runId db) fun r =>
        ⟨fun hr => ((hattempts r).mp hr).1, fun hr => (hattempts r).mpr ⟨hr, ?_⟩⟩
      have hproto : WorkerService.stepToProto cfg r ∈
          (oldest runId db).map (WorkerService.stepToProto cfg) := List.mem_map_of_mem hr
      rw [← hprotos] at hproto
      obtain ⟨x, hx, heq⟩ := List.mem_map.mp hproto
      have hns := congrArg Step.ns heq
      exact hns.symm.trans ((hattempts x).mp (mem_of_walk hws hx)).2
    have hlength := congrArg List.length hprotos
    rw [List.length_map, List.length_map, ← hall] at hlength
    rw [List.map_id, ← hall]
    have hwalk := (length_walk hordered (by omega) (fun r _ => cutKey_le r.sortKey) hws).2
    rw [filter_beyond_none] at hwalk
    exact hwalk hlength
  · intro r _ a ha
    cases ha
    rfl

end Steps

/-! ## A template and its instance -/

/-- A template, and an instance that is triggered within the same millisecond. -/
def sameMillisecond : List RunRow :=
  [{ tenSecondsRow 1 with createdAt := some 1200 }, (tenSecondsRow 1).instanceOf 2 0 1500]

/-- Two steps of the instance. -/
def twoSteps : List StepRow :=
  [{ attemptId := 3, runId := 2, stepId := "a", ns := "ns", status := .completed, output := none,
     error := none, createdAt := some 1500, startedAt := none, finishedAt := none,
     retryPolicy := none, attemptNumber := 1, isLatest := true, input := none,
     stepKind := .function },
   { attemptId := 4, runId := 2, stepId := "b", ns := "ns", status := .running, output := none,
     error := none, createdAt := some 2500, startedAt := none, finishedAt := none,
     retryPolicy := none, attemptNumber := 1, isLatest := true, input := none,
     stepKind := .function }]

def sampleDb : Db where
  namespaces := .empty
  runs := ⟨sameMillisecond, by decide, by decide⟩
  payloads := ⟨[⟨1, [], none⟩, ⟨2, [], none⟩], by decide, by decide⟩
  steps := ⟨twoSteps, by decide, by decide⟩
  workers := .empty

/-- Base64 of the tokens that are made of these rows. -/
def sampleBase64 : Base64 where
  encode text := ([("1:1", "MTox"), ("1:2", "MToy"), ("1:3", "MToz"), ("2:4", "Mjo0")].lookup text).getD ""
  decode token := [("MTox", "1:1"), ("MToy", "1:2"), ("MToz", "1:3"), ("Mjo0", "2:4")].lookup token

theorem sample_readable : ∀ r ∈ sampleDb.runs.rows,
    Readable .sample sampleBase64 r.createdAt r.runId := by
  have hrows : sampleDb.runs.rows = sameMillisecond := rfl
  rw [hrows]
  intro r hr
  simp only [sameMillisecond, List.mem_cons, List.not_mem_nil, or_false] at hr
  rcases hr with rfl | rfl
  · exact ⟨by decide, 1200, rfl, by decide, by decide, by decide, by decide⟩
  · exact ⟨by decide, 1500, rfl, by decide, by decide, by decide, by decide⟩

theorem sample_readable_step : ∀ r ∈ sampleDb.steps.rows,
    Readable .sample sampleBase64 r.createdAt r.attemptId := by
  have hrows : sampleDb.steps.rows = twoSteps := rfl
  rw [hrows]
  intro r hr
  simp only [twoSteps, List.mem_cons, List.not_mem_nil, or_false] at hr
  rcases hr with rfl | rfl
  · exact ⟨by decide, 1500, rfl, by decide, by decide, by decide, by decide⟩
  · exact ⟨by decide, 2500, rfl, by decide, by decide, by decide, by decide⟩

theorem newest_sample : newest (fun r => r.ns = "ns") sampleDb = sameMillisecond.reverse := by
  decide +kernel

/-- In pages of one, the run that was created first is skipped. -/
theorem run_is_skipped :
    ¬ Returns (fun token => WorkflowService.listWorkflows .sample sampleBase64 0
        ⟨"ns", none, some ⟨1, token, false⟩⟩ sampleDb) Workflow.runId
      ((newest (fun r => r.ns = "ns") sampleDb).map fun r => Config.sample.uuidText r.runId) := by
  rw [returns_listWorkflows (by decide) 1 false fun r hr _ => sample_readable r hr]
  rintro ⟨-, hapart⟩
  rw [newest_sample] at hapart
  have hlt := hapart _ _ ⟨0, rfl, rfl⟩
  revert hlt
  decide +kernel

/-- The lists of runs are complete exactly if each run has its payload, each template
its expression, and each page ends apart from the row that comes next. -/
theorem workflow_lists_complete_iff (cfg : Config) (base64 : Base64) (db : Db) (now : Int)
    (ns : String) (size : Int) (total : Bool)
    (hread : ∀ r ∈ db.runs.rows, r.ns = ns → Readable cfg base64 r.createdAt r.runId) :
    (Returns (fun token => WorkflowService.listWorkflows cfg base64 now
          ⟨ns, none, some ⟨size, token, total⟩⟩ db) Workflow.runId
        ((newest (fun r => r.ns = ns) db).map fun r => cfg.uuidText r.runId) ↔
      ns ≠ "" ∧ AllPaid db (newest (fun r => r.ns = ns) db) ∧
        EndsApart (normalizePageSize size 20 100) (newest (fun r => r.ns = ns) db)) ∧
    (Returns (fun token => ScheduleService.listWorkflowSchedules cfg base64
          ⟨ns, some ⟨size, token, total⟩⟩ db) WorkflowSchedule.scheduleId
        ((newest (fun r => r.ns = ns ∧ r.status = .scheduled) db).map
          fun r => cfg.uuidText r.runId) ↔
      ns ≠ "" ∧ (AllPaid db (newest (fun r => r.ns = ns ∧ r.status = .scheduled) db) ∧
        ∀ r ∈ newest (fun r => r.ns = ns ∧ r.status = .scheduled) db, r.cronExpr.isSome) ∧
        EndsApart (normalizePageSize size 100 500)
          (newest (fun r => r.ns = ns ∧ r.status = .scheduled) db)) ∧
    ∀ text scheduleId, cfg.parseUuid text = some scheduleId →
      (Returns (fun token => ScheduleService.listScheduleRuns cfg base64 now
            ⟨ns, text, some ⟨size, token, total⟩⟩ db) Workflow.runId
          ((newest (fun r => r.ns = ns ∧ r.scheduleId = some scheduleId) db).map
            fun r => cfg.uuidText r.runId) ↔
        ns ≠ "" ∧ AllPaid db (newest (fun r => r.ns = ns ∧ r.scheduleId = some scheduleId) db) ∧
          EndsApart (normalizePageSize size 100 500)
            (newest (fun r => r.ns = ns ∧ r.scheduleId = some scheduleId) db)) := by
  by_cases hns : ns = ""
  · subst hns
    refine ⟨?_, ?_, fun text scheduleId hid => ?_⟩
    · exact iff_of_false (not_returns_of_error rfl) (by simp)
    · exact iff_of_false (not_returns_of_error rfl) (by simp)
    · have herror : ScheduleService.listScheduleRuns cfg base64 now
          ⟨"", text, some ⟨size, "", total⟩⟩ db =
            .error (invalidArgumentError "namespace is required") := by
        simp only [ScheduleService.listScheduleRuns, hid]
        rfl
      exact iff_of_false (not_returns_of_error herror) (by simp)
  · simp only [ne_eq, hns, not_false_eq_true, true_and]
    exact ⟨returns_listWorkflows hns size total hread,
      returns_listWorkflowSchedules hns size total hread,
      fun text scheduleId hid => returns_listScheduleRuns hns hid size total hread⟩

theorem endsApart_of_length {size : Int} {rows : List RunRow} (h : rows.length ≤ size.toNat) :
    EndsApart size rows :=
  fun _ _ hboundary => absurd hboundary.lt_length (Nat.not_lt.mpr h)

/-- In pages of two, each list is complete. -/
theorem complete_in_pages_of_two :
    Returns (fun token => WorkflowService.listWorkflows .sample sampleBase64 0
        ⟨"ns", none, some ⟨2, token, false⟩⟩ sampleDb) Workflow.runId
      ((newest (fun r => r.ns = "ns") sampleDb).map fun r => Config.sample.uuidText r.runId) ∧
    Returns (fun token => ScheduleService.listWorkflowSchedules .sample sampleBase64
        ⟨"ns", some ⟨2, token, false⟩⟩ sampleDb) WorkflowSchedule.scheduleId
      ((newest (fun r => r.ns = "ns" ∧ r.status = .scheduled) sampleDb).map
        fun r => Config.sample.uuidText r.runId) ∧
    Returns (fun token => ScheduleService.listScheduleRuns .sample sampleBase64 0
        ⟨"ns", "1", some ⟨2, token, false⟩⟩ sampleDb) Workflow.runId
      ((newest (fun r => r.ns = "ns" ∧ r.scheduleId = some 1) sampleDb).map
        fun r => Config.sample.uuidText r.runId) := by
  have h := workflow_lists_complete_iff .sample sampleBase64 sampleDb 0 "ns" 2 false
    fun r hr _ => sample_readable r hr
  refine ⟨h.1.mpr ⟨by decide, ?_, endsApart_of_length ?_⟩,
    h.2.1.mpr ⟨by decide, ⟨?_, ?_⟩, endsApart_of_length ?_⟩,
    (h.2.2 "1" 1 (by decide)).mpr ⟨by decide, ?_, endsApart_of_length ?_⟩⟩ <;>
  first | unfold AllPaid; decide +kernel | decide +kernel

theorem oldest_sample : oldest 2 sampleDb = twoSteps := by
  decide +kernel

/-- In pages of one, the first step comes again and again. -/
theorem step_is_repeated :
    ¬ Returns (fun token => AdminService.listSteps .sample sampleBase64
        ⟨"2", none, some ⟨1, token, false⟩⟩ sampleDb) id
      ((oldest 2 sampleDb).map (WorkerService.stepToProto .sample)) := by
  rw [returns_listSteps (by decide : Config.sample.parseUuid "2" = some 2)
    (rfl : sampleDb.run 2 = some ((tenSecondsRow 1).instanceOf 2 0 1500)) 1 false
    fun r hr _ => sample_readable_step r hr]
  rintro ⟨-, hwhole⟩
  rw [oldest_sample] at hwhole
  have heq := hwhole _ _ ⟨0, rfl, rfl⟩
  revert heq
  decide +kernel

/-- The list of steps is complete exactly if the steps are in the namespace of their
run, and each page but the last ends at a whole millisecond. -/
theorem step_list_complete_iff (cfg : Config) (base64 : Base64) (db : Db) (text : String)
    (runId : Uuid) (run : RunRow) (size : Int) (total : Bool)
    (hid : cfg.parseUuid text = some runId) (hrun : db.run runId = some run)
    (hread : ∀ r ∈ db.steps.rows, r.runId = runId → Readable cfg base64 r.createdAt r.attemptId) :
    Returns (fun token => AdminService.listSteps cfg base64
        ⟨text, none, some ⟨size, token, total⟩⟩ db) id
      ((oldest runId db).map (WorkerService.stepToProto cfg)) ↔
    (∀ r ∈ oldest runId db, r.ns = run.ns) ∧
      EndsWhole (normalizePageSize size 50 100) (oldest runId db) :=
  returns_listSteps hid hrun size total hread

/-- In pages of two, the list of steps is complete. -/
theorem steps_complete_in_pages_of_two :
    Returns (fun token => AdminService.listSteps .sample sampleBase64
        ⟨"2", none, some ⟨2, token, false⟩⟩ sampleDb) id
      ((oldest 2 sampleDb).map (WorkerService.stepToProto .sample)) := by
  refine (step_list_complete_iff .sample sampleBase64 sampleDb "2" 2
    ((tenSecondsRow 1).instanceOf 2 0 1500) 2 false (by decide) rfl
    fun r hr _ => sample_readable_step r hr).mpr ⟨by decide +kernel, fun b r hboundary => ?_⟩
  have hlt := hboundary.lt_length
  rw [oldest_sample] at hlt
  exact absurd hlt (by decide)

end Paging

end Kagzi
