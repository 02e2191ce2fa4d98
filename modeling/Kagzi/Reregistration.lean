import Kagzi.Server.Service
import Kagzi.Store.WorkerChange

/-!
# Registering again

A worker that registers again is to be recognised by its namespace, its task queue, its
hostname and its process id: `register` is an upsert over a unique index of these columns.
The handler stores an empty hostname and a process id of zero as NULL, and no two NULLs are
equal to an index.  So a worker that leaves one of them out is a new worker each time
(`registers_once_iff`).
-/

namespace Kagzi

open Atomic Relational

namespace Reregistration

/-- What the handler of a request registers. -/
def params (req : RegisterRequest) : RegisterWorkerParams :=
  { ns := req.ns
    taskQueue := req.taskQueue
    workflowTypes := req.workflowTypes
    hostname := if req.hostname = "" then none else some req.hostname
    pid := if req.pid = 0 then none else some req.pid
    version := if req.version = "" then none else some req.version }

/-! ## What is claimed -/

/-- The row has the namespace, the queue, the hostname and the process id. -/
structure HasKey (params : RegisterWorkerParams) (r : WorkerRow) : Prop where
  ns : r.ns = params.ns
  taskQueue : r.taskQueue = params.taskQueue
  hostname : r.hostname = params.hostname
  pid : r.pid = params.pid

/-- There is exactly one row for the worker that is not offline. -/
def Alone (params : RegisterWorkerParams) (db : Db) : Prop :=
  ∃! r, r ∈ db.workers.rows ∧ r.status ≠ .offline ∧ HasKey params r

/-- The worker is there, and neither offline nor draining. -/
def IsOnline (workerId : Uuid) (w : World) : Prop :=
  ∃ r, w.worker workerId = some r ∧ r.status = .online

/-- The key has no column that is NULL. -/
def Complete (params : RegisterWorkerParams) : Prop :=
  params.hostname.isSome = true ∧ params.pid.isSome = true

theorem complete_iff {req : RegisterRequest} :
    Complete (params req) ↔ req.hostname ≠ "" ∧ req.pid ≠ 0 := by
  unfold Complete params
  by_cases hhost : req.hostname = "" <;> by_cases hpid : req.pid = 0 <;> simp [hhost, hpid]

/-! ## One registration -/

section Registration
variable {params : RegisterWorkerParams} {e : Env} {db : Db} {workerId : Uuid} {r : WorkerRow}

theorem sameProcess_iff : r.sameProcess params = true ↔
    Complete params ∧ r.status ≠ .offline ∧ HasKey params r := by
  simp only [WorkerRow.sameProcess, Bool.and_eq_true, decide_eq_true_eq]
  constructor
  · rintro ⟨⟨⟨⟨hstatus, hns⟩, hqueue⟩, hhost, hhost'⟩, hpid, hpid'⟩
    exact ⟨⟨hhost' ▸ hhost, hpid' ▸ hpid⟩, hstatus, hns, hqueue, hhost', hpid'⟩
  · rintro ⟨⟨hhost, hpid⟩, hstatus, hns, hqueue, hhost', hpid'⟩
    exact ⟨⟨⟨⟨hstatus, hns⟩, hqueue⟩, hhost' ▸ hhost, hhost'⟩, hpid' ▸ hpid, hpid'⟩

/-- Two rows with a complete key that are not offline are one. -/
theorem eq_of_hasKey {r r' : WorkerRow} (hcomplete : Complete params) (hr : r ∈ db.workers.rows)
    (hstatus : r.status ≠ .offline) (hkey : HasKey params r) (hr' : r' ∈ db.workers.rows)
    (hstatus' : r'.status ≠ .offline) (hkey' : HasKey params r') : r = r' := by
  have hhost : SameKey r.hostname r'.hostname :=
    ⟨hkey.hostname ▸ hcomplete.1, hkey.hostname.trans hkey'.hostname.symm⟩
  have hpid : SameKey r.pid r'.pid := ⟨hkey.pid ▸ hcomplete.2, hkey.pid.trans hkey'.pid.symm⟩
  exact db.workers.eq_of_clash hr hr' (.inr ⟨hstatus, hstatus', hkey.ns.trans hkey'.ns.symm,
    hkey.taskQueue.trans hkey'.taskQueue.symm, hhost, hpid⟩)

/-- A registration finds the worker, or inserts a new one. -/
theorem registerWorker_cases (h : (registerWorker params e db).1 = .ok workerId) :
    (∃ r ∈ db.workers.rows, r.sameProcess params = true ∧ r.workerId = workerId ∧
      r.reregister params e.now ∈ (registerWorker params e db).2.workers.rows) ∨
    ((∀ r ∈ db.workers.rows, r.sameProcess params = false) ∧ db.worker workerId = none ∧
      WorkerRow.registered params workerId e.now ∈ (registerWorker params e db).2.workers.rows) := by
  unfold registerWorker at h ⊢
  split at h
  next found hfind =>
    have hmem := List.mem_of_find?_eq_some hfind
    refine .inl ⟨found, hmem, List.find?_some hfind, ?_⟩
    unfold Db.commitWorkers at h ⊢
    split at h
    next workers hu =>
      refine ⟨Except.ok.inj h, ?_⟩
      dsimp only
      rw [Table.update?_rows hu]
      exact List.mem_map.mpr ⟨found, hmem, amend_of_true (by simp)⟩
    next => cases h
  next hfind =>
    split at h
    next hns =>
      split at h
      next workers hi =>
        obtain rfl := Except.ok.inj h
        refine .inr ⟨fun r hr => by simpa using List.find?_eq_none.mp hfind r hr,
          Table.get?_key_of_insert? hi, ?_⟩
        rw [if_pos hns]
        dsimp only
        rw [(Table.insert?_eq_some hi).1]
        exact List.mem_append_right _ (List.mem_singleton_self _)
      next => cases h
    next => cases h

/-- The worker that has been registered has the key. -/
theorem hasKey_of_registered (h : (registerWorker params e db).1 = .ok workerId) :
    ∃ r ∈ (registerWorker params e db).2.workers.rows, r.workerId = workerId ∧
      r.status = .online ∧ HasKey params r := by
  rcases registerWorker_cases h with ⟨r, -, hsame, hid, hmem⟩ | ⟨-, -, hmem⟩
  · have hkey := (sameProcess_iff.mp hsame).2.2
    exact ⟨_, hmem, hid, rfl, hkey.ns, hkey.taskQueue, hkey.hostname, hkey.pid⟩
  · exact ⟨_, hmem, rfl, rfl, rfl, rfl, rfl, rfl⟩

/-- With a complete key there is one row for the worker after a registration. -/
theorem alone_of_registered (hcomplete : Complete params)
    (h : (registerWorker params e db).1 = .ok workerId) : Alone params (registerWorker params e db).2 := by
  obtain ⟨r, hmem, -, honline, hkey⟩ := hasKey_of_registered h
  have hstatus : r.status ≠ .offline := by
    rw [honline]
    exact nofun
  refine ⟨r, ⟨hmem, hstatus, hkey⟩, ?_⟩
  rintro r' ⟨hmem', hstatus', hkey'⟩
  exact eq_of_hasKey hcomplete hmem' hstatus' hkey' hmem hstatus hkey

/-- A worker that is not offline is found again exactly if its key is complete. -/
theorem found_iff {r : WorkerRow} (hr : db.worker r.workerId = some r) (hstatus : r.status ≠ .offline)
    (hkey : HasKey params r) (h : (registerWorker params e db).1 = .ok workerId) :
    workerId = r.workerId ↔ Complete params := by
  have hmem : r ∈ db.workers.rows := Table.mem_of_get? hr
  constructor
  · rintro rfl
    rcases registerWorker_cases h with ⟨r', -, hsame, -, -⟩ | ⟨-, hnone, -⟩
    · exact (sameProcess_iff.mp hsame).1
    · rw [hr] at hnone
      cases hnone
  · intro hcomplete
    rcases registerWorker_cases h with ⟨r', hmem', hsame, rfl, -⟩ | ⟨hnone, -, -⟩
    · obtain ⟨-, hstatus', hkey'⟩ := sameProcess_iff.mp hsame
      exact congrArg WorkerRow.workerId (eq_of_hasKey hcomplete hmem' hstatus' hkey' hmem hstatus hkey)
    · have hsame : r.sameProcess params = true := sameProcess_iff.mpr ⟨hcomplete, hstatus, hkey⟩
      rw [hnone r hmem] at hsame
      cases hsame

end Registration

/-! ## The worker in between -/

/-- The worker is there and has the key. -/
def Known (params : RegisterWorkerParams) (workerId : Uuid) (db : Db) : Prop :=
  ∃ r, db.worker workerId = some r ∧ HasKey params r

/-- No statement changes the key of a worker, and none deletes one. -/
theorem Known.exec {params : RegisterWorkerParams} {workerId : Uuid} {e : Env} {q : Stmt} {db : Db}
    (h : Known params workerId db) : Known params workerId (q.exec e db).2 := by
  obtain ⟨r, hr, hkey⟩ := h
  have hc := q.exec_worker e db workerId
  rw [hr] at hc
  generalize hnew : (q.exec e db).2.worker workerId = new at hc
  cases hc with
  | same => exact ⟨r, hnew, hkey⟩
  | reregistered _ => exact ⟨_, hnew, hkey.ns, hkey.taskQueue, hkey.hostname, hkey.pid⟩
  | beat _ => exact ⟨_, hnew, hkey.ns, hkey.taskQueue, hkey.hostname, hkey.pid⟩
  | drained => exact ⟨_, hnew, hkey.ns, hkey.taskQueue, hkey.hostname, hkey.pid⟩
  | deregistered => exact ⟨_, hnew, hkey.ns, hkey.taskQueue, hkey.hostname, hkey.pid⟩
  | stale _ _ => exact ⟨_, hnew, hkey.ns, hkey.taskQueue, hkey.hostname, hkey.pid⟩

theorem Known.replay {params : RegisterWorkerParams} {workerId : Uuid} {w : World} {earlier : List Ran}
    (h : Known params workerId (store.replay w earlier).db) (middle : List Ran) :
    Known params workerId (store.replay w (middle ++ earlier)).db := by
  induction middle with
  | nil => exact h
  | cons ran middle ih => exact ih.exec

/-! ## The handler -/

section Handler
variable {cfg : Config} {w : World} {p : ServerState} {i : Nat} {req : RegisterRequest} {resp : Response}
variable {later earlier : List Ran} {ran : Ran}

theorem register_eq (htypes : req.workflowTypes.isEmpty = false) (hns : req.ns ≠ "") :
    WorkerService.register cfg req = .call (.registerWorker (params req)) fun a =>
      match a with
      | .ok workerId => .ret (.register (cfg.uuidText workerId) cfg.worker.heartbeatIntervalSecs)
      | .error x => .fail (mapStoreError x) := by
  unfold WorkerService.register requireNonEmpty
  rw [htypes, if_neg hns]
  refine congrArg (Prog.call _) (funext fun a => ?_)
  cases a <;> rfl

/-- The statement of a call that has returned is a registration, and the response has the
worker that it answered. -/
theorem registered_of_returned (h : Steps (server cfg fun _ => True) (.init w []) p)
    (hi : p.returned i = some (.register req, resp)) (htrace : p.trace = later ++ ran :: earlier)
    (hcaller : ran.caller = i) :
    ∃ workerId, resp = .register (cfg.uuidText workerId) cfg.worker.heartbeatIntervalSecs ∧
      (registerWorker (params req) ran.env (store.replay w earlier).db).1 = .ok workerId ∧
      (store.replay w (ran :: earlier)).db =
        (registerWorker (params req) ran.env (store.replay w earlier).db).2 := by
  have hget := Pool.calls_of_returned hi
  have hspawn : handle cfg (.register req) = WorkerService.register cfg req := rfl
  have hrefused : ∀ x, WorkerService.register cfg req ≠ .fail x := fun x hx => by
    cases h.failed_at_once hget (hspawn.trans hx)
  have htypes : req.workflowTypes.isEmpty = false := by
    cases hempty : req.workflowTypes.isEmpty with
    | false => rfl
    | true =>
        unfold WorkerService.register at hrefused
        rw [hempty] at hrefused
        exact absurd rfl (hrefused _)
  have hns : req.ns ≠ "" := by
    intro hempty
    unfold WorkerService.register requireNonEmpty at hrefused
    rw [htypes, if_pos hempty] at hrefused
    exact absurd rfl (hrefused _)
  have hran : ran ∈ p.trace := htrace ▸ List.mem_append_right _ (List.mem_cons_self ..)
  obtain ⟨e, a, rfl, hdone⟩ := h.one_query hget (hspawn.trans (register_eq htypes hns))
    (fun a q' k' => by cases a <;> simp) hran hcaller
  have hanswer := (h.recalled.2 later _ earlier htrace).2
  cases a with
  | error x => cases hdone
  | ok workerId =>
      cases hdone
      have hok : (Stmt.exec e (.registerWorker (params req)) (store.replay w earlier).db).1 = .ok workerId :=
        hanswer.symm
      have hexec := Stmt.exec_ok hok
      refine ⟨workerId, rfl, ?_, ?_⟩
      · rw [hexec] at hok
        exact hok
      · show (Stmt.exec e (.registerWorker (params req)) (store.replay w earlier).db).2 = _
        rw [hexec]
        rfl

end Handler

/-! ## A worker that registers twice -/

/-- A worker with this hostname and process id. -/
def worker (hostname : String) (pid : Int) : RegisterRequest := ⟨"ns", "queue", ["type"], hostname, pid, ""⟩

/-- A namespace is created, and then the worker registers twice. -/
def registerTwice (req : RegisterRequest) : List (Action Env Request) :=
  [.start (.startWorkflow ⟨"job", "queue", "type", none, "ns", "", none⟩)] ++ runs 0 6 (.quiet 0 1) ++
  [.start (.register req)] ++ runs 1 1 (.quiet 1 2) ++ [.start (.register req)] ++ runs 2 1 (.quiet 2 3)

/-- The state after it. -/
def registered (req : RegisterRequest) : ServerState :=
  fireAll (server .sample fun _ => True) (.init (.empty 0) []) (registerTwice req)

/-- A trace, with its last two statements apart. -/
theorem two_last {trace : List Ran} (h : 1 < trace.length) :
    trace = [] ++ trace.get ⟨0, Nat.lt_of_succ_lt h⟩ :: ([] ++ trace.get ⟨1, h⟩ :: trace.drop 2) := by
  cases trace with
  | nil => cases h
  | cons ran trace =>
      cases trace with
      | nil => exact absurd h (Nat.lt_irrefl 1)
      | cons ran' trace => rfl

theorem last_drop {trace : List Ran} (h : 1 < trace.length) :
    [] ++ trace.get ⟨1, h⟩ :: trace.drop 2 = trace.drop 1 := by
  rw [List.nil_append, List.get_eq_getElem, List.getElem_cons_drop]

/-- The worker with the text "2". -/
theorem sample_two {workerId : Uuid} (h : Config.sample.uuidText workerId = "2") : workerId = 2 := by
  have hdigits : ∀ id < 10, Config.sample.uuidText id = "2" → id = 2 := by decide
  rcases Nat.lt_or_ge workerId 10 with hlt | hge
  · exact hdigits workerId hlt h
  · have hnone : Config.sample.uuidText workerId = "" := by
      unfold Config.sample
      simp [hge]
    rw [hnone] at h
    exact absurd h (by decide)

/-! ## Main results -/

/-- A request that is repeated while its worker is online is answered with the same worker,
and leaves one row for it. -/
def Idempotent (cfg : Config) : Prop :=
  ∀ (w : World) (p : ServerState) (i j : Nat) (req : RegisterRequest) (resp resp' : Response)
    (later middle earlier : List Ran) (ran ran' : Ran),
    Steps (server cfg fun _ => True) (.init w []) p →
    p.returned i = some (.register req, resp) → p.returned j = some (.register req, resp') →
    p.trace = later ++ ran' :: (middle ++ ran :: earlier) → ran.caller = i → ran'.caller = j →
    ∀ workerId, resp = .register (cfg.uuidText workerId) cfg.worker.heartbeatIntervalSecs →
      IsOnline workerId (store.replay w (middle ++ ran :: earlier)) →
        resp' = resp ∧ Alone (params req) (store.replay w (ran' :: (middle ++ ran :: earlier))).db

/-- A request that is repeated while its worker is online is answered with the same worker,
and leaves one row for it, exactly if it has a hostname and a process id. -/
theorem registers_once_iff (cfg : Config) (w : World) (p : ServerState) (i j : Nat)
    (req : RegisterRequest) (resp resp' : Response) (later middle earlier : List Ran) (ran ran' : Ran)
    (h : Steps (server cfg fun _ => True) (.init w []) p)
    (hi : p.returned i = some (.register req, resp)) (hj : p.returned j = some (.register req, resp'))
    (htrace : p.trace = later ++ ran' :: (middle ++ ran :: earlier)) (hran : ran.caller = i)
    (hran' : ran'.caller = j) :
    ∃ workerId workerId',
      resp = .register (cfg.uuidText workerId) cfg.worker.heartbeatIntervalSecs ∧
      resp' = .register (cfg.uuidText workerId') cfg.worker.heartbeatIntervalSecs ∧
      (IsOnline workerId (store.replay w (middle ++ ran :: earlier)) →
        ((workerId' = workerId ∧
            Alone (params req) (store.replay w (ran' :: (middle ++ ran :: earlier))).db) ↔
          req.hostname ≠ "" ∧ req.pid ≠ 0)) := by
  have hfirst : p.trace = (later ++ ran' :: middle) ++ ran :: earlier := by simp [htrace]
  obtain ⟨workerId, hresp, hok, hdb⟩ := registered_of_returned h hi hfirst hran
  obtain ⟨workerId', hresp', hok', hdb'⟩ := registered_of_returned h hj htrace hran'
  refine ⟨workerId, workerId', hresp, hresp', fun honline => ?_⟩
  -- the worker still has the key with which it was registered
  obtain ⟨r₀, hmem, hid, -, hkey₀⟩ := hasKey_of_registered hok
  have hknown : Known (params req) workerId (store.replay w (ran :: earlier)).db := by
    rw [hdb]
    exact ⟨r₀, hid ▸ Table.get?_of_mem hmem, hkey₀⟩
  obtain ⟨r, hr, hkey⟩ := hknown.replay middle
  obtain ⟨r', hr', hstatus⟩ := honline
  obtain rfl := Option.some.inj (hr.symm.trans hr')
  have hrunning : r.status ≠ .offline := by
    rw [hstatus]
    exact nofun
  obtain rfl := Db.workerId_of_worker hr
  have hfound := found_iff hr hrunning hkey hok'
  rw [complete_iff] at hfound
  rw [hdb', ← hfound]
  exact ⟨fun hsame => hsame.1, fun hsame =>
    ⟨hsame, alone_of_registered (complete_iff.mpr (hfound.mp hsame)) hok'⟩⟩

/-- With a hostname and a process id the worker is found again. -/
theorem registers_once_iff_named :
    Alone (params (worker "host" 7)) (store.replay (.empty 0) (registered (worker "host" 7)).trace).db := by
  have h : Steps (server .sample fun _ => True) (.init (.empty 0) []) (registered (worker "host" 7)) :=
    AllEnabled.steps (by decide +kernel)
  have hlength : 1 < (registered (worker "host" 7)).trace.length := by decide +kernel
  have hi : (registered (worker "host" 7)).returned 1
      = some (.register (worker "host" 7), .register "2" 10) := by decide +kernel
  have hj : (registered (worker "host" 7)).returned 2
      = some (.register (worker "host" 7), .register "2" 10) := by decide +kernel
  have hfirst : ∀ h : 1 < (registered (worker "host" 7)).trace.length,
      ((registered (worker "host" 7)).trace.get ⟨1, h⟩).caller = 1 := by decide +kernel
  have hsecond : ∀ h : 0 < (registered (worker "host" 7)).trace.length,
      ((registered (worker "host" 7)).trace.get ⟨0, h⟩).caller = 2 := by decide +kernel
  obtain ⟨workerId, workerId', hresp, -, hiff⟩ := registers_once_iff .sample (.empty 0) _ 1 2 _ _ _ []
    [] _ _ _ h hi hj (two_last hlength) (hfirst _) (hsecond _)
  obtain rfl := sample_two (Response.register.inj hresp).1.symm
  have honline : IsOnline 2 (store.replay (.empty 0) ((registered (worker "host" 7)).trace.drop 1)) := by
    have hstatus : ((store.replay (.empty 0) ((registered (worker "host" 7)).trace.drop 1)).worker 2).map
        WorkerRow.status = some .online := by decide +kernel
    exact Option.map_eq_some_iff.mp hstatus
  have halone := ((hiff (by rw [last_drop]; exact honline)).mpr (by decide)).2
  rwa [← List.nil_append (List.cons _ _), ← two_last hlength] at halone

/-- Without them there are two workers. -/
theorem registers_twice : ¬ Idempotent .sample := by
  intro hidempotent
  have h : Steps (server .sample fun _ => True) (.init (.empty 0) []) (registered (worker "" 0)) :=
    AllEnabled.steps (by decide +kernel)
  have hlength : 1 < (registered (worker "" 0)).trace.length := by decide +kernel
  have hi : (registered (worker "" 0)).returned 1
      = some (.register (worker "" 0), .register "2" 10) := by decide +kernel
  have hj : (registered (worker "" 0)).returned 2
      = some (.register (worker "" 0), .register "3" 10) := by decide +kernel
  have hfirst : ∀ h : 1 < (registered (worker "" 0)).trace.length,
      ((registered (worker "" 0)).trace.get ⟨1, h⟩).caller = 1 := by decide +kernel
  have hsecond : ∀ h : 0 < (registered (worker "" 0)).trace.length,
      ((registered (worker "" 0)).trace.get ⟨0, h⟩).caller = 2 := by decide +kernel
  have honline : IsOnline 2 (store.replay (.empty 0) ((registered (worker "" 0)).trace.drop 1)) := by
    have hstatus : ((store.replay (.empty 0) ((registered (worker "" 0)).trace.drop 1)).worker 2).map
        WorkerRow.status = some .online := by decide +kernel
    exact Option.map_eq_some_iff.mp hstatus
  obtain ⟨hsame, -⟩ := hidempotent (.empty 0) _ 1 2 _ _ _ [] [] _ _ _ h hi hj (two_last hlength)
    (hfirst _) (hsecond _) 2 (by decide) (by rw [last_drop]; exact honline)
  exact absurd hsame (by decide)

end Reregistration

end Kagzi
