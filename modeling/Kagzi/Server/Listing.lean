import Mathlib.Data.Prod.Lex
import Mathlib.Order.WithBot
import Mathlib.Algebra.Order.Ring.Int
import Kagzi.Server.WorkerService
import Kagzi.Server.WorkflowService
import Kagzi.Server.ScheduleService

/-!
# Lists in pages

`list_workflows`, `list_workflow_schedules`, `list_schedule_runs` and `list_steps`
with the queries behind them.  They only read, so a handler is a function of the
database and its request.

A page ends with a token for the next one.  It holds the creation time of the last
row in milliseconds and the row's id; the column has microseconds.

A creation time that is null sorts after all others, and is in no order to a cursor.
-/

namespace Kagzi

/-! ## Pages -/

structure PageRequest where
  pageSize : Int
  pageToken : String
  includeTotalCount : Bool
deriving DecidableEq

structure PageInfo where
  nextPageToken : String
  hasMore : Bool
  totalCount : Nat
deriving DecidableEq

/-- `PageRequest::default`. -/
def PageRequest.default : PageRequest := ⟨0, "", false⟩

/-- `normalize_page_size`. -/
def normalizePageSize (requested default max : Int) : Int :=
  if requested ≤ 0 then default else min requested max

structure PaginatedResult (α χ : Type) where
  items : List α
  nextCursor : Option χ
  hasMore : Bool

/-! ## Tokens -/

/-- `general_purpose::STANDARD` of base64, with the bytes read as text. -/
structure Base64 where
  encode : String → String
  decode : String → Option String

/-- The decimal number that the characters are. -/
def parseDigits (cs : List Char) : Option Nat :=
  if cs ≠ [] ∧ cs.all Char.isDigit then some (Nat.ofDigitChars 10 cs 0) else none

/-- The number if it is one of 64 bits. -/
def checkedI64 (x : Int) : Option Int := if -2 ^ 63 ≤ x ∧ x < 2 ^ 63 then some x else none

/-- `str::parse::<i64>`. -/
def parseI64 : List Char → Option Int
  | '-' :: cs => (parseDigits cs).bind fun n => checkedI64 (-n)
  | '+' :: cs => (parseDigits cs).bind fun n => checkedI64 n
  | cs => (parseDigits cs).bind fun n => checkedI64 n

/-- `splitn(2, ':')`: what is before the first colon, and what is after it. -/
def splitColon : List Char → List Char × Option (List Char)
  | [] => ([], none)
  | c :: cs => if c = ':' then ([], some cs) else (c :: (splitColon cs).1, (splitColon cs).2)

/-- `DateTime::timestamp_millis`. -/
def timestampMillis (t : Int) : Int := t / 1000

/-- The first and the last millisecond of a `DateTime<Utc>`. -/
def minMillis : Int := -8334601228800000

def maxMillis : Int := 8210266876799999

/-- `Utc.timestamp_millis_opt(ms).single()`. -/
def timestampMillisOpt (ms : Int) : Option Int :=
  if minMillis ≤ ms ∧ ms ≤ maxMillis then some (ofMillis ms) else none

/-- `encode_cursor`. -/
def encodeCursor (cfg : Config) (base64 : Base64) (timestampMs : Int) (id : Uuid) : String :=
  base64.encode (toString timestampMs ++ ":" ++ cfg.uuidText id)

def invalidPageToken : Status := invalidArgumentError "Invalid page_token"

/-- `decode_cursor`. -/
def decodeCursor (cfg : Config) (base64 : Base64) (token : String) : Except Status (Int × Uuid) :=
  match base64.decode token with
  | none => .error invalidPageToken
  | some text =>
      let parts := splitColon text.toList
      match parseI64 parts.1, parts.2 with
      | some ms, some idStr =>
          match timestampMillisOpt ms, cfg.parseUuid (String.ofList idStr) with
          | some createdAt, some id => .ok (createdAt, id)
          | _, _ => .error invalidPageToken
      | _, _ => .error invalidPageToken

/-- The cursor that a page token stands for.  An empty token stands for none. -/
def cursorOf (cfg : Config) (base64 : Base64) (token : String) :
    Except Status (Option (Int × Uuid)) :=
  if token = "" then .ok none else (decodeCursor cfg base64 token).map some

/-- The token for the next page. -/
def nextToken (cfg : Config) (base64 : Base64) : Option (Int × Uuid) → String
  | some (createdAt, id) => encodeCursor cfg base64 (timestampMillis createdAt) id
  | none => ""

/-! ## The order of the rows -/

/-- The columns a list of rows is sorted by, and a cursor compared with.  A time that
is null is greater than any other. -/
def SortKey : Type := WithTop Int ×ₗ Uuid

instance : LinearOrder SortKey := inferInstanceAs (LinearOrder (WithTop Int ×ₗ Uuid))

def sortKey (createdAt : Option Int) (id : Uuid) : SortKey := toLex (createdAt, id)

/-- A cursor as a row to compare with. -/
def cursorKey (cursor : Int × Uuid) : SortKey := sortKey (some cursor.1) cursor.2

def RunRow.sortKey (r : RunRow) : SortKey := Kagzi.sortKey r.createdAt r.runId

def StepRow.sortKey (r : StepRow) : SortKey := Kagzi.sortKey r.createdAt r.attemptId

/-! ## The queries -/

/-- A filter that is unspecified is a text that is the status of no run. -/
structure ListWorkflowsParams where
  ns : String
  filterStatus : Option (Option WorkflowStatus)
  pageSize : Int
  cursor : Option (Int × Uuid)
  scheduleId : Option Uuid

/-- The `WHERE` clause of `list`, without the cursor. -/
def ListWorkflowsParams.selects (params : ListWorkflowsParams) (r : RunRow) : Bool :=
  r.ns = params.ns && params.filterStatus.all (fun s => s = some r.status) &&
    params.scheduleId.all fun s => r.scheduleId = some s

/-- `list` of the workflow repository: the newest runs first. -/
def WorkflowRepository.list (params : ListWorkflowsParams) (db : Db) :
    PaginatedResult WorkflowRun (Int × Uuid) :=
  let matching := db.runs.rows.filter fun r => params.selects r &&
    params.cursor.all fun c => r.sortKey < cursorKey c
  let sorted := (matching.filterMap db.joined).insertionSort fun a b => b.sortKey ≤ a.sortKey
  let rows := sorted.take (params.pageSize + 1).toNat
  let items := rows.take (asUsize params.pageSize)
  { items := items
    nextCursor := items.getLast?.bind fun w => w.createdAt.map fun t => (t, w.runId)
    hasMore := rows.length > asUsize params.pageSize }

/-- `count` of the workflow repository. -/
def WorkflowRepository.count (ns : String) (filterStatus : Option (Option WorkflowStatus))
    (db : Db) : Nat :=
  db.runs.rows.countP fun r => r.ns = ns && filterStatus.all fun s => s = some r.status

structure ListStepsParams where
  runId : Uuid
  ns : String
  stepId : Option String
  pageSize : Int
  cursor : Option (Int × Uuid)

/-- The `WHERE` clause of `list`, without the cursor. -/
def ListStepsParams.selects (params : ListStepsParams) (r : StepRow) : Bool :=
  r.runId = params.runId && r.ns = params.ns && params.stepId.all fun s => r.stepId = s

/-- The row is beyond the cursor.  A time that is null is not. -/
def StepRow.beyond (cursor : Option (Int × Uuid)) (r : StepRow) : Bool :=
  cursor.all fun c => r.createdAt.isSome && cursorKey c < r.sortKey

/-- `list` of the step repository: the oldest attempts first. -/
def StepRepository.list (params : ListStepsParams) (db : Db) :
    PaginatedResult StepRow (Int × Uuid) :=
  let pageSize := asUsize (max params.pageSize 1)
  let matching := db.steps.rows.filter fun r => params.selects r && r.beyond params.cursor
  let sorted := matching.insertionSort fun a b => a.sortKey ≤ b.sortKey
  let rows := sorted.take (pageSize + 1)
  let items := rows.take pageSize
  let hasMore : Bool := rows.length > pageSize
  { items := items
    nextCursor :=
      if hasMore then items.getLast?.bind fun s => s.createdAt.map fun t => (t, s.attemptId)
      else none
    hasMore := hasMore }

/-! ## The handlers -/

/-- The status of a number of the enumeration.  The first, which is unspecified, is no
status of a run. -/
def protoWorkflowStatus (n : Int) : Option (Option WorkflowStatus) :=
  if n = 0 then some none
  else if n = 1 then some (some .pending)
  else if n = 2 then some (some .running)
  else if n = 3 then some (some .sleeping)
  else if n = 4 then some (some .completed)
  else if n = 5 then some (some .failed)
  else if n = 6 then some (some .cancelled)
  else if n = 7 then some (some .scheduled)
  else if n = 8 then some (some .paused)
  else none

structure ListWorkflowsRequest where
  ns : String
  statusFilter : Option Int
  page : Option PageRequest

structure ListWorkflowSchedulesRequest where
  ns : String
  page : Option PageRequest

structure ListScheduleRunsRequest where
  ns : String
  scheduleId : String
  page : Option PageRequest

structure ListStepsRequest where
  runId : String
  stepName : Option String
  page : Option PageRequest

/-- The answer of a list: the rows of a page, and what comes after it. -/
structure ListResponse (α : Type) where
  items : List α
  page : PageInfo

/-- `require_non_empty`. -/
def required (value field : String) : Except Status String :=
  if value = "" then .error (invalidArgumentError (field ++ " is required")) else .ok value

/-- `list_workflows`. -/
def WorkflowService.listWorkflows (cfg : Config) (base64 : Base64) (now : Int)
    (req : ListWorkflowsRequest) (db : Db) : Except Status (ListResponse Workflow) := do
  let ns ← required req.ns "namespace"
  let page := req.page.getD .default
  let pageSize := normalizePageSize page.pageSize 20 100
  let cursor ← cursorOf cfg base64 page.pageToken
  let filterStatus ← match req.statusFilter with
    | none => .ok none
    | some n =>
        match protoWorkflowStatus n with
        | some status => .ok (some status)
        | none => .error (invalidArgumentError "Invalid status_filter")
  let result := WorkflowRepository.list ⟨ns, filterStatus, pageSize, cursor, none⟩ db
  let totalCount := if page.includeTotalCount then WorkflowRepository.count ns filterStatus db else 0
  .ok
    { items := result.items.map fun w => workflowToProto cfg w (w.createdAt.getD now)
      page := ⟨nextToken cfg base64 result.nextCursor, result.hasMore, totalCount⟩ }

/-- The page of a schedule request: its size, and its token. -/
def ScheduleService.pageOf (page : Option PageRequest) : Int × String :=
  match page with
  | some page => (normalizePageSize page.pageSize 100 500, page.pageToken)
  | none => (100, "")

/-- `list_workflow_schedules`. -/
def ScheduleService.listWorkflowSchedules (cfg : Config) (base64 : Base64)
    (req : ListWorkflowSchedulesRequest) (db : Db) :
    Except Status (ListResponse WorkflowSchedule) := do
  let ns ← required req.ns "namespace"
  let cursor ← cursorOf cfg base64 (pageOf req.page).2
  let result := WorkflowRepository.list
    ⟨ns, some (some .scheduled), (pageOf req.page).1, cursor, none⟩ db
  let schedules ← result.items.mapM (workflowRunToScheduleProto cfg)
  .ok
    { items := schedules
      page := ⟨nextToken cfg base64 result.nextCursor, result.hasMore, 0⟩ }

/-- `list_schedule_runs`. -/
def ScheduleService.listScheduleRuns (cfg : Config) (base64 : Base64) (now : Int)
    (req : ListScheduleRunsRequest) (db : Db) : Except Status (ListResponse Workflow) :=
  match cfg.parseUuid req.scheduleId with
  | none => .error (invalidArgumentError "Invalid schedule_id")
  | some scheduleId => do
      let ns ← required req.ns "namespace"
      let cursor ← cursorOf cfg base64 (pageOf req.page).2
      let result := WorkflowRepository.list
        ⟨ns, none, (pageOf req.page).1, cursor, some scheduleId⟩ db
      .ok
        { items := result.items.map fun w =>
            WorkflowService.workflowToProto cfg w (w.createdAt.getD now)
          page := ⟨nextToken cfg base64 result.nextCursor, result.hasMore, 0⟩ }

/-- `list_steps` of the admin service. -/
def AdminService.listSteps (cfg : Config) (base64 : Base64) (req : ListStepsRequest) (db : Db) :
    Except Status (ListResponse Step) :=
  match cfg.parseUuid req.runId with
  | none => .error (invalidArgumentError "Invalid run_id")
  | some runId =>
      match (db.run runId).map RunRow.ns with
      | none => .error (notFoundError "Workflow not found" "workflow" (cfg.uuidText runId))
      | some ns => do
          let page := req.page.getD .default
          let pageSize := normalizePageSize page.pageSize 50 100
          let cursor ← cursorOf cfg base64 page.pageToken
          let stepName := req.stepName.filter fun s => s ≠ ""
          let result := StepRepository.list ⟨runId, ns, stepName, pageSize, cursor⟩ db
          .ok
            { items := result.items.map (WorkerService.stepToProto cfg)
              page := ⟨nextToken cfg base64 result.nextCursor, result.hasMore, 0⟩ }

/-! ## Tokens that come back -/

/-- What comes back of a cursor. -/
def cutKey (key : SortKey) : SortKey :=
  sortKey ((ofLex key).1.map fun t => ofMillis (timestampMillis t)) (ofLex key).2

/-- The token of a row can be read again: its time is one of a `DateTime<Utc>`, and
the libraries give back what was written. -/
structure Readable (cfg : Config) (base64 : Base64) (createdAt : Option Int) (id : Uuid) : Prop where
  uuid : cfg.parseUuid (cfg.uuidText id) = some id
  time : ∃ t, createdAt = some t ∧ minMillis ≤ timestampMillis t ∧ timestampMillis t ≤ maxMillis ∧
    base64.encode (toString (timestampMillis t) ++ ":" ++ cfg.uuidText id) ≠ "" ∧
    base64.decode (base64.encode (toString (timestampMillis t) ++ ":" ++ cfg.uuidText id)) =
      some (toString (timestampMillis t) ++ ":" ++ cfg.uuidText id)

theorem isDigit_of_mem_toDigits {n : Nat} {c : Char} (h : c ∈ Nat.toDigits 10 n) :
    c.isDigit = true :=
  Nat.isDigit_of_mem_toDigits (by decide) (by decide) h

theorem parseDigits_toDigits (n : Nat) : parseDigits (Nat.toDigits 10 n) = some n := by
  have hdigits : Nat.toDigits 10 n ≠ [] ∧ (Nat.toDigits 10 n).all Char.isDigit = true :=
    ⟨Nat.toDigits_ne_nil, List.all_eq_true.mpr fun c hc => isDigit_of_mem_toDigits hc⟩
  rw [parseDigits, if_pos hdigits, Nat.ofDigitChars_ten_toDigits]

/-- Digits without a sign are the number they are. -/
theorem parseI64_toDigits (n : Nat) : parseI64 (Nat.toDigits 10 n) = checkedI64 n := by
  have hsign : ∀ c cs, Nat.toDigits 10 n = c :: cs → c.isDigit = true := fun c cs h =>
    isDigit_of_mem_toDigits (h ▸ List.mem_cons_self ..)
  unfold parseI64
  split
  next cs h => exact absurd (hsign _ _ h) (by decide)
  next cs h => exact absurd (hsign _ _ h) (by decide)
  next => rw [parseDigits_toDigits, Option.bind_some]

/-- The text of a number is read as the number. -/
theorem parseI64_toString {x : Int} (h : -2 ^ 63 ≤ x) (h' : x < 2 ^ 63) :
    parseI64 (toString x).toList = some x := by
  have hchecked : checkedI64 x = some x := if_pos ⟨h, h'⟩
  cases x with
  | ofNat n =>
      have htext : (toString (Int.ofNat n)).toList = Nat.toDigits 10 n := Nat.toList_repr
      rw [htext, parseI64_toDigits]
      exact hchecked
  | negSucc n =>
      have htext : (toString (Int.negSucc n)).toList = '-' :: Nat.toDigits 10 (n + 1) := by
        show ("-" ++ Nat.repr (n + 1)).toList = _
        rw [String.toList_append, Nat.toList_repr]
        rfl
      rw [htext]
      show (parseDigits (Nat.toDigits 10 (n + 1))).bind _ = _
      rw [parseDigits_toDigits, Option.bind_some]
      exact hchecked

/-- The characters before the first colon. -/
theorem splitColon_append {front : List Char} (h : ':' ∉ front) (rest : List Char) :
    splitColon (front ++ ':' :: rest) = (front, some rest) := by
  induction front with
  | nil => rfl
  | cons c cs ih =>
      have hc : c ≠ ':' := fun heq => h (heq ▸ List.mem_cons_self ..)
      rw [List.cons_append, splitColon, if_neg hc, ih fun hmem => h (List.mem_cons_of_mem _ hmem)]

theorem colon_not_mem_toString (x : Int) : ':' ∉ (toString x).toList := by
  have hdigits : ∀ n, ':' ∉ Nat.toDigits 10 n := fun n hmem =>
    absurd (isDigit_of_mem_toDigits hmem) (by decide)
  cases x with
  | ofNat n =>
      show ':' ∉ (Nat.repr n).toList
      rw [Nat.toList_repr]
      exact hdigits n
  | negSucc n =>
      show ':' ∉ ("-" ++ Nat.repr (n + 1)).toList
      rw [String.toList_append, Nat.toList_repr]
      intro hmem
      rcases List.mem_append.mp hmem with hmem | hmem
      · exact absurd hmem (by decide)
      · exact hdigits _ hmem

section Tokens
variable {cfg : Config} {base64 : Base64} {t : Int} {id : Uuid}

/-- A cursor comes back with its time cut to milliseconds. -/
theorem decodeCursor_encodeCursor (h : Readable cfg base64 (some t) id) :
    decodeCursor cfg base64 (encodeCursor cfg base64 (timestampMillis t) id) =
      .ok (ofMillis (timestampMillis t), id) := by
  obtain ⟨huuid, t', ht, hmin, hmax, -, hdecode⟩ := h
  obtain rfl := Option.some.inj ht
  have hlist : (toString (timestampMillis t) ++ ":" ++ cfg.uuidText id).toList =
      (toString (timestampMillis t)).toList ++ ':' :: (cfg.uuidText id).toList := by
    rw [String.toList_append, String.toList_append, List.append_assoc]
    rfl
  have hparse : parseI64 (toString (timestampMillis t)).toList = some (timestampMillis t) := by
    refine parseI64_toString (le_trans ?_ hmin) (lt_of_le_of_lt hmax ?_) <;> decide
  have hmillis : timestampMillisOpt (timestampMillis t) = some (ofMillis (timestampMillis t)) :=
    if_pos ⟨hmin, hmax⟩
  simp only [decodeCursor, encodeCursor, hdecode, hlist,
    splitColon_append (colon_not_mem_toString _), hparse, hmillis, String.ofList_toList, huuid]

/-- The token of a row is read as its cursor, cut to milliseconds. -/
theorem cursorOf_nextToken (h : Readable cfg base64 (some t) id) :
    cursorOf cfg base64 (nextToken cfg base64 (some (t, id))) =
      .ok (some (ofMillis (timestampMillis t), id)) := by
  have hne : nextToken cfg base64 (some (t, id)) ≠ "" := by
    obtain ⟨-, t', ht, -, -, hne, -⟩ := h
    obtain rfl := Option.some.inj ht
    exact hne
  rw [cursorOf, if_neg hne]
  show (decodeCursor cfg base64 (encodeCursor cfg base64 (timestampMillis t) id)).map some = _
  rw [decodeCursor_encodeCursor h]
  rfl

end Tokens

end Kagzi
