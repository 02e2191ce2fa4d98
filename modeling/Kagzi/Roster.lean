import Kagzi.Logic.Drift
import Kagzi.Server.WorkerList
import Kagzi.Payload

/-!
# Every worker is listed once

A client that goes through the pages of `list_workers` sends one request after the other,
and between two of them workers register, beat, drain, go offline or come back.  No page is
read from the same table.

Still no worker is listed twice, and one that was registered when the walk began is listed,
unless its status has left the filter (`workers_are_listed_once`).  What a single page lists is
what `get_worker` answers (`getWorker_of_listed`), and its total is the number of the workers
that the pages are of (`totalCount_of_listed`).
-/

namespace Kagzi

open Atomic Relational Keyset OrderDual

namespace Roster

/-! ## The pages of a state -/

/-- The queue that a request asks for.  An empty one is none. -/
def queueOf (req : ListWorkersRequest) : Option String := req.taskQueue.filter fun t => t ≠ ""

/-- How many workers a page of the request has. -/
def sizeOf (req : ListWorkersRequest) : Nat :=
  (normalizePageSize (req.page.getD .default).pageSize 20 100).toNat

/-- The greatest id comes first. -/
def lastFirst (x : WorkerRow) : Uuidᵒᵈ := toDual x.workerId

/-- The workers of a state that the request asks for, in the order of the list. -/
def rowsOf (req : ListWorkersRequest) (status : Option WorkerStatus) (q : ServerState) :
    List WorkerRow :=
  sorted lastFirst (q.store.db.workers.rows.filter (WorkerRow.isOf req.ns (queueOf req) status))

/-- The token of a cursor. -/
def tokenOf (cfg : Config) (cursor : Option Uuidᵒᵈ) : String :=
  (cursor.map fun c => cfg.uuidText (ofDual c)).getD ""

/-- Ask a state for the page after the token. -/
def send (cfg : Config) (req : ListWorkersRequest) (q : ServerState) (token : String) :
    Except Status (List Worker × String × Bool) :=
  let page : PageRequest := { req.page.getD .default with pageToken := token }
  (AdminService.listWorkers cfg { req with page := some page } q.store.db).map fun answer =>
    (answer.items, answer.page.nextPageToken, answer.page.hasMore)

section Pages
variable {cfg : Config} {req : ListWorkersRequest} {status : Option WorkerStatus} {q : ServerState}

theorem sizeOf_bounds (req : ListWorkersRequest) :
    0 < sizeOf req ∧
      asUsize (normalizePageSize (req.page.getD .default).pageSize 20 100) = sizeOf req ∧
      (max (normalizePageSize (req.page.getD .default).pageSize 20 100) 1 + 1).toNat =
        sizeOf req + 1 := by
  have hbounds : 0 < normalizePageSize (req.page.getD .default).pageSize 20 100 ∧
      normalizePageSize (req.page.getD .default).pageSize 20 100 ≤ 100 := by
    unfold normalizePageSize
    split <;> omega
  have hcast := asUsize_of_nonneg (le_of_lt hbounds.1) (by omega)
  unfold sizeOf
  omega

theorem workers_distinct (q : ServerState) (p : WorkerRow → Bool) :
    (q.store.db.workers.rows.filter p).Pairwise fun x y => lastFirst x ≠ lastFirst y :=
  (q.store.db.workers.distinct.filter p).imp fun hclash => toDual.injective.ne fun hid =>
    hclash (.inl hid)

theorem ordered_rowsOf (q : ServerState) : Ordered lastFirst (rowsOf req status q) :=
  ordered_sorted (workers_distinct q _)

theorem mem_rowsOf {x : WorkerRow} :
    x ∈ rowsOf req status q ↔
      q.store.worker x.workerId = some x ∧ x.isOf req.ns (queueOf req) status = true := by
  rw [rowsOf, mem_sorted, List.mem_filter]
  refine and_congr_left fun _ => ⟨fun h => Table.get?_of_mem h, fun h => Table.mem_of_get? h⟩

/-- The rows of the query are those beyond the cursor. -/
theorem rowsOf_beyond (cursor : Option Uuidᵒᵈ) :
    (q.store.db.workers.rows.filter fun r => r.isOf req.ns (queueOf req) status &&
        (cursor.map ofDual).all fun c => decide (r.workerId < c)).insertionSort
        (fun a b => b.workerId ≤ a.workerId) =
      (rowsOf req status q).filter (beyond lastFirst cursor) := by
  rw [rowsOf, ← sorted_filter (workers_distinct q _), List.filter_filter]
  show sorted lastFirst _ = _
  congr 1
  refine List.filter_congr fun r _ => ?_
  rw [Bool.and_comm]
  cases cursor <;> rfl

/-- The query is the page after the cursor. -/
theorem list_eq (cursor : Option Uuidᵒᵈ) :
    WorkerRepository.list ⟨req.ns, queueOf req, status,
        normalizePageSize (req.page.getD .default).pageSize 20 100,
        cursor.map ofDual⟩ q.store.db =
      let found := exactPage lastFirst (sizeOf req) (rowsOf req status) q cursor
      { items := found.items
        nextCursor := if found.hasMore then found.items.getLast?.map WorkerRow.workerId else none
        hasMore := found.hasMore } := by
  obtain ⟨-, hsize, hlimit⟩ := sizeOf_bounds req
  simp only [WorkerRepository.list, rowsOf_beyond, hsize, hlimit, exactPage, page]
  rfl

/-- An answer is the page after the cursor. -/
theorem send_eq (hids : ∀ id, cfg.parseUuid (cfg.uuidText id) = some id ∧ cfg.uuidText id ≠ "")
    (hns : req.ns ≠ "") (hstatus : normalizeWorkerStatus req.statusFilter = .ok status)
    (cursor : Option Uuidᵒᵈ) :
    ∃ next, send cfg req q (tokenOf cfg cursor) =
        .ok ((exactPage lastFirst (sizeOf req) (rowsOf req status) q cursor).items.map
            (workerToProto cfg), next,
          (exactPage lastFirst (sizeOf req) (rowsOf req status) q cursor).hasMore) ∧
      ((exactPage lastFirst (sizeOf req) (rowsOf req status) q cursor).hasMore = true →
        next = tokenOf cfg (exactPage lastFirst (sizeOf req)
            (rowsOf req status) q cursor).next) := by
  have hcursor : workerCursor cfg (tokenOf cfg cursor) = .ok (cursor.map ofDual) := by
    cases cursor with
    | none => rfl
    | some c =>
        obtain ⟨hparse, hne⟩ := hids (ofDual c)
        show workerCursor cfg (cfg.uuidText (ofDual c)) = _
        rw [workerCursor, if_neg hne, hparse]
        rfl
  let found := exactPage lastFirst (sizeOf req) (rowsOf req status) q cursor
  have hanswer : send cfg req q (tokenOf cfg cursor) = .ok (found.items.map (workerToProto cfg),
      ((if found.hasMore then found.items.getLast?.map WorkerRow.workerId else none).map
        cfg.uuidText).getD "",
      found.hasMore) := by
    simp only [send, AdminService.listWorkers, Option.getD_some, required, if_neg hns, hcursor,
      hstatus]
    simp only [bind, Except.bind]
    rw [← queueOf, list_eq]
    rfl
  refine ⟨_, hanswer, fun hmore => ?_⟩
  rw [if_pos hmore]
  show _ = tokenOf cfg ((found.items.getLast?).map fun r => id (lastFirst r))
  cases found.items.getLast? <;> rfl

/-- A page lists rows of the table that the conditions let through. -/
theorem mem_list {params : ListWorkersParams} {db : Db} {x : WorkerRow}
    (h : x ∈ (WorkerRepository.list params db).items) :
    db.worker x.workerId = some x ∧
      x.isOf params.ns params.taskQueue params.filterStatus = true := by
  have hmatching := List.mem_of_mem_take (List.mem_of_mem_take h)
  rw [List.mem_insertionSort] at hmatching
  obtain ⟨hmem, hx⟩ := List.mem_filter.mp hmatching
  exact ⟨Table.get?_of_mem hmem, (Bool.and_eq_true_iff.mp hx).1⟩

/-- What a request that is answered is answered with. -/
theorem listWorkers_ok {db : Db} {answer : ListResponse Worker}
    (h : AdminService.listWorkers cfg req db = .ok answer) :
    ∃ status cursor, normalizeWorkerStatus req.statusFilter = .ok status ∧
      answer.items = (WorkerRepository.list ⟨req.ns, queueOf req, status,
        normalizePageSize (req.page.getD .default).pageSize 20 100, cursor⟩ db).items.map
          (workerToProto cfg) ∧
      ((req.page.getD .default).includeTotalCount = true →
        answer.page.totalCount = WorkerRepository.count req.ns (queueOf req) status db) := by
  unfold AdminService.listWorkers at h
  simp only [bind, Except.bind] at h
  split at h
  next => cases h
  next ns hns =>
    split at h
    next => cases h
    next cursor hcursor =>
      split at h
      next => cases h
      next status hstatus =>
        obtain rfl : req.ns = ns := by
          unfold required at hns
          split at hns
          next => cases hns
          next => exact Except.ok.inj hns
        obtain rfl := Except.ok.inj h
        exact ⟨status, cursor, hstatus, rfl, fun htotal => if_pos htotal⟩

/-- A worker that a page lists is answered alike when it is asked for by its id. -/
theorem getWorker_of_listed (hids : ∀ id, cfg.parseUuid (cfg.uuidText id) = some id)
    {db : Db} {answer : ListResponse Worker}
    (h : AdminService.listWorkers cfg req db = .ok answer) {item : Worker}
    (hitem : item ∈ answer.items) : AdminService.getWorker cfg item.workerId db = .ok item := by
  obtain ⟨status, cursor, -, hitems, -⟩ := listWorkers_ok h
  rw [hitems] at hitem
  obtain ⟨x, hx, rfl⟩ := List.mem_map.mp hitem
  have hid : cfg.parseUuid (workerToProto cfg x).workerId = some x.workerId := hids x.workerId
  rw [AdminService.getWorker, hid]
  dsimp only
  rw [(mem_list hx).1]

/-- The total is the number of workers that the pages are of. -/
theorem totalCount_of_listed {answer : ListResponse Worker}
    (h : AdminService.listWorkers cfg req q.store.db = .ok answer)
    (htotal : (req.page.getD .default).includeTotalCount = true)
    (hstatus : normalizeWorkerStatus req.statusFilter = .ok status) :
    answer.page.totalCount = (rowsOf req status q).length := by
  obtain ⟨status', cursor, hstatus', -, hcount⟩ := listWorkers_ok h
  obtain rfl : status' = status := Except.ok.inj (hstatus'.symm.trans hstatus)
  rw [hcount htotal, WorkerRepository.count, List.countP_eq_length_filter]
  exact (List.length_insertionSort _ _).symm

end Pages

/-! ## Workers stay -/

/-- The worker is there, in its namespace and queue. -/
def Stays (id : Uuid) (ns taskQueue : String) (m : Now) : Prop :=
  ∃ y, m.store.worker id = some y ∧ y.ns = ns ∧ y.taskQueue = taskQueue

theorem stays_kept (id : Uuid) (ns taskQueue : String) :
    Invariant store (Stays id ns taskQueue) := by
  rintro i e q m ⟨y, hy, hns, hqueue⟩ -
  have hc := q.exec_worker e m.store.db id
  rw [show m.store.db.worker id = some y from hy] at hc
  show ∃ y, (q.exec e m.store.db).2.worker id = some y ∧ _
  generalize (q.exec e m.store.db).2.worker id = new at hc ⊢
  cases hc with
  | _ => exact ⟨_, rfl, hns, hqueue⟩

/-! ## The result -/

/-- What a walk gives that begins in the state `p` and goes on in the states `ps`. -/
structure Listed (req : ListWorkersRequest) (status : Option WorkerStatus) (p : ServerState)
    (ps : List ServerState) (rows : List WorkerRow) : Prop where
  /-- No worker is twice in it. -/
  descending : rows.Pairwise fun x y => y.workerId < x.workerId
  /-- An entry is what the worker was in one of the states. -/
  seen : ∀ x ∈ rows, ∃ q ∈ p :: ps, q.store.worker x.workerId = some x ∧
    x.isOf req.ns (queueOf req) status = true
  /-- A worker that was there, and that the filter does not lose, is in it. -/
  complete : ∀ id x, p.store.worker id = some x → x.ns = req.ns →
    (queueOf req).all (x.taskQueue = ·) = true →
    (∀ q ∈ p :: ps, ∀ y, q.store.worker id = some y → status.all (y.status = ·) = true) →
    ∃ y ∈ rows, y.workerId = id

section Walks
variable {cfg : Config} {req : ListWorkersRequest} {status : Option WorkerStatus} {p : ServerState}
variable {ps : List ServerState}

/-- A worker that is there at the beginning stays among the rows that its status is let through
to. -/
theorem stays_listed (hlater : ∀ q ∈ p :: ps, Steps (Payload.service cfg) p q) {id : Uuid}
    {x : WorkerRow} (hx : p.store.worker id = some x) (hns : x.ns = req.ns)
    (hqueue : (queueOf req).all (x.taskQueue = ·) = true)
    (hstatus : ∀ q ∈ p :: ps, ∀ y, q.store.worker id = some y → status.all (y.status = ·) = true) :
    ∀ q ∈ p :: ps, ∃ y ∈ rowsOf req status q, lastFirst y = toDual id := by
  intro q hq
  obtain ⟨y, hy, hyns, hyqueue⟩ : Stays id x.ns x.taskQueue q.toMoment :=
    (hlater q hq).invariant (stays_kept id x.ns x.taskQueue) ⟨x, hx, rfl, rfl⟩
  have hid : y.workerId = id := Db.workerId_of_worker hy
  refine ⟨y, mem_rowsOf.mpr ⟨hid.symm ▸ hy, ?_⟩, congrArg toDual hid⟩
  simp only [WorkerRow.isOf, Bool.and_eq_true, decide_eq_true_eq]
  exact ⟨⟨hyns.trans hns, hyqueue ▸ hqueue⟩, hstatus q hq y hy⟩

theorem listed_of_drift (hlater : ∀ q ∈ p :: ps, Steps (Payload.service cfg) p q)
    {rows : List WorkerRow}
    (h : drift (exactPage lastFirst (sizeOf req) (rowsOf req status)) (p :: ps) none = some rows) :
    Listed req status p ps rows := by
  have hsize := (sizeOf_bounds req).1
  have hordered : ∀ q ∈ p :: ps, Ordered lastFirst (rowsOf req status q) := fun q _ =>
    ordered_rowsOf q
  obtain ⟨hrows, hseen⟩ := walked_drift hsize hordered h
  refine ⟨hrows, fun x hx => ?_, fun id x hx hns hqueue hstatus => ?_⟩
  · obtain ⟨-, q, hq, hxq⟩ := hseen x hx
    exact ⟨q, hq, mem_rowsOf.mp hxq⟩
  · obtain ⟨y, hy, hid⟩ := exists_mem_drift hsize hordered h rfl
      (stays_listed hlater hx hns hqueue hstatus)
    exact ⟨y, hy, toDual.injective hid⟩

/-- A walk that has not ended has listed as many workers as its pages have room for. -/
theorem length_le_workers {last : ServerState}
    (hlast : ∀ q ∈ p :: ps, Steps (Payload.service cfg) q last)
    (h : drift (exactPage lastFirst (sizeOf req) (rowsOf req status)) (p :: ps) none = none) :
    (ps.length + 1) * sizeOf req ≤ last.store.db.workers.rows.length := by
  obtain ⟨out, ⟨hout, hseen⟩, hlength⟩ := walked_of_drift_none (sizeOf_bounds req).1
      (fun q _ => ordered_rowsOf q) h
  have hdistinct : (out.map WorkerRow.workerId).Nodup :=
    List.pairwise_map.mpr (hout.imp fun hlt heq => (ne_of_lt hlt) (congrArg toDual heq))
  have hsub : out.map WorkerRow.workerId ⊆ last.store.db.workers.rows.map WorkerRow.workerId := by
    intro id hid
    obtain ⟨x, hx, rfl⟩ := List.mem_map.mp hid
    obtain ⟨-, q, hq, hxq⟩ := hseen x hx
    obtain ⟨y, hy, -⟩ : Stays x.workerId x.ns x.taskQueue last.toMoment :=
      (hlast q hq).invariant (stays_kept _ _ _) ⟨x, (mem_rowsOf.mp hxq).1, rfl, rfl⟩
    exact List.mem_map.mpr ⟨y, Table.mem_of_get? hy, Db.workerId_of_worker hy⟩
  have hle := (List.subperm_of_subset hdistinct hsub).length_le
  rw [List.length_map, List.length_map, hlength] at hle
  exact hle

end Walks

/-- A client goes through the pages of `list_workers`, each of which it reads from a later
state of the server.  What it gets when it has come to the end is `Listed`, and it comes to the
end before its pages have room for more workers than there are. -/
theorem workers_are_listed_once (cfg : Config)
    (hids : ∀ id, cfg.parseUuid (cfg.uuidText id) = some id ∧ cfg.uuidText id ≠ "")
    {p last : ServerState} {ps : List ServerState}
    (hsteps : (p :: ps).Pairwise (Steps (Payload.service cfg)))
    (hlast : ∀ q ∈ p :: ps, Steps (Payload.service cfg) q last) (req : ListWorkersRequest)
    (hns : req.ns ≠ "") {status : Option WorkerStatus}
    (hstatus : normalizeWorkerStatus req.statusFilter = .ok status) :
    (∀ items, followOver (send cfg req) (p :: ps) "" = some items →
      ∃ rows, items = rows.map (workerToProto cfg) ∧ Listed req status p ps rows) ∧
    (last.store.db.workers.rows.length < (ps.length + 1) * sizeOf req →
      ∃ items, followOver (send cfg req) (p :: ps) "" = some items) := by
  have hwalk : followOver (send cfg req) (p :: ps) "" =
      (drift (exactPage lastFirst (sizeOf req) (rowsOf req status)) (p :: ps) none).map
        (List.map (workerToProto cfg)) :=
    followOver_eq (tokenOf cfg) (fun _ c => send_eq hids hns hstatus c) (p :: ps) none
  have hlater : ∀ q ∈ p :: ps, Steps (Payload.service cfg) p q := by
    intro q hq
    rcases List.mem_cons.mp hq with rfl | hq
    · exact .refl
    · exact (List.pairwise_cons.mp hsteps).1 q hq
  refine ⟨fun items h => ?_, fun hroom => ?_⟩
  · rw [hwalk] at h
    obtain ⟨rows, hrows, rfl⟩ := Option.map_eq_some_iff.mp h
    exact ⟨rows, rfl, listed_of_drift hlater hrows⟩
  · rw [hwalk]
    cases hdrift : drift (exactPage lastFirst (sizeOf req) (rowsOf req status)) (p :: ps) none with
    | some rows => exact ⟨_, rfl⟩
    | none => exact absurd (length_le_workers hlast hdrift) (Nat.not_le.mpr hroom)

/-- Two workers register. -/
def registered : List (Action Env Request) :=
  [.start (.register ⟨"ns", "queue", ["type"], "", 0, ""⟩)] ++ runs 1 1 (.quiet 0 1) ++
    [.start (.register ⟨"ns", "queue", ["type"], "", 0, ""⟩)] ++ runs 2 1 (.quiet 0 2)

/-- The first is drained, and one more registers. -/
def changed : List (Action Env Request) :=
  [.start (.drainWorker "11")] ++ runs 3 2 (.quiet 1 0) ++
    [.start (.register ⟨"ns", "queue", ["type"], "", 0, ""⟩)] ++ runs 4 1 (.quiet 1 3)

/-- A namespace is there, and two workers. -/
def before : ServerState := fireAll (Payload.service .strokes) (.init (.empty 0) [])
  ([.start (.startWorkflow ⟨"job", "queue", "type", none, "ns", "", none⟩)] ++
      runs 0 6 (.quiet 0 1) ++ registered)

/-- A request for one worker a page. -/
def onePerPage : ListWorkersRequest := ⟨"ns", none, none, some ⟨1, "", false⟩⟩

/-- The second page is read when the worker on it is being drained. -/
theorem workers_are_listed_once_changed :
    ∃ items rows, followOver (send .strokes onePerPage)
        [before, fireAll (Payload.service .strokes) before changed] "" = some items ∧
      items.map Worker.status = [.online, .draining] ∧
      items = rows.map (workerToProto .strokes) ∧
      Listed onePerPage none before [fireAll (Payload.service .strokes) before changed] rows := by
  have hchanged : Steps (Payload.service .strokes) before
      (fireAll (Payload.service .strokes) before changed) :=
    AllEnabled.steps (by decide +kernel)
  have hpairwise : [before, fireAll (Payload.service .strokes) before changed].Pairwise
      (Steps (Payload.service .strokes)) := by
    simpa using hchanged
  have hlast : ∀ q ∈ [before, fireAll (Payload.service .strokes) before changed],
      Steps (Payload.service .strokes) q (fireAll (Payload.service .strokes) before changed) := by
    intro q hq
    rcases List.mem_pair.mp hq with rfl | rfl
    · exact hchanged
    · exact .refl
  have hstatuses : (followOver (send .strokes onePerPage)
      [before, fireAll (Payload.service .strokes) before changed] "").map (List.map Worker.status) =
        some [.online, .draining] := by decide +kernel
  obtain ⟨items, hitems, hstatus⟩ := Option.map_eq_some_iff.mp hstatuses
  obtain ⟨rows, hrows, hlisted⟩ := (workers_are_listed_once .strokes Config.strokes_uuid hpairwise
      hlast onePerPage (by decide) rfl).1 items hitems
  exact ⟨items, rows, hitems, hstatus, hrows, hlisted⟩

end Roster

end Kagzi
