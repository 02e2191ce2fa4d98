import Kagzi.Server.Reach
import Kagzi.Server.Instances

/-!
# A worker gets what a client has sent

The namespace, the queue, the type and the input of a run are written when it is created, and
never again.  What is written then comes from the request that starts the run, from the run
that a request names, or from the template that fires.  So all work goes back to what clients
have sent (`Ordered`), and a poll hands out nothing else, in any order of the steps of all
requests.

An id is given to one run only, so that what was sent for it is unique (`ordered_unique`).
-/

namespace Kagzi

open Atomic

namespace Delivery

/-- The server, for all requests. -/
abbrev service (cfg : Config) : Service Stmt Stmt.Result World Env Request Status Response :=
  server cfg fun _ => True

/-! ## What clients have sent -/

/-- The run that a statement has created for a request. -/
def inserted : Ran → Option Uuid
  | ⟨_, _, .createWorkflow params, .ok _⟩ => some params.runId
  | _ => none

/-- The caller has created the run. -/
def Creates (i : Nat) (runId : Uuid) (trace : List Ran) : Prop :=
  ∃ ran ∈ trace, ran.caller = i ∧ inserted ran = some runId

/-- The work of a run that a request creates with data of its own. -/
def sent (runId : Uuid) : Request → Option Work
  | .startWorkflow req =>
      some ⟨runId, req.ns, req.taskQueue, req.workflowType, payloadToBytes req.input⟩
  | .createWorkflowSchedule req =>
      some ⟨runId, req.ns, req.taskQueue, req.workflowType,
        (payloadToOptionalBytes req.input).getD []⟩
  | _ => none

/-- The run that a request creates another one from, and the namespace it names. -/
def copied (cfg : Config) : Request → Option (Option Uuid × String)
  | .retryWorkflow req => some (cfg.parseUuid req.runId, req.ns)
  | .triggerWorkflowSchedule req => some (cfg.parseUuid req.scheduleId, req.ns)
  | _ => none

/-- Work that goes back to what the requests of clients have sent. -/
inductive Ordered (cfg : Config) (requests : Nat → Option Request) (trace : List Ran) :
    Work → Prop where
  | sent {i : Nat} {req : Request} {runId : Uuid} {work : Work} :
      requests i = some req → Creates i runId trace → sent runId req = some work →
      Ordered cfg requests trace work
  | copied {i : Nat} {req : Request} {runId : Uuid} {work : Work} :
      requests i = some req → Creates i runId trace →
        copied cfg req = some (some work.runId, work.ns) →
      Ordered cfg requests trace work → Ordered cfg requests trace { work with runId := runId }
  | fired {work : Work} {fireAt : Int} {runId : Uuid} :
      runId ∈ created work.runId fireAt trace → Ordered cfg requests trace work →
      Ordered cfg requests trace { work with runId := runId }

/-- The requests of a pool, by their numbers. -/
def requestsOf (p : ServerState) (i : Nat) : Option Request := (p.calls[i]?).map Prod.fst

/-! ## Traces -/

section Traces
variable {cfg : Config} {requests : Nat → Option Request} {trace : List Ran} {work : Work}
    {ran : Ran}

theorem Creates.cons {i : Nat} {runId : Uuid} (h : Creates i runId trace) :
    Creates i runId (ran :: trace) := by
  obtain ⟨ran', hran', h⟩ := h
  exact ⟨ran', List.mem_cons_of_mem _ hran', h⟩

theorem created_cons {template runId : Uuid} {fireAt : Int}
    (h : runId ∈ created template fireAt trace) :
    runId ∈ created template fireAt (ran :: trace) := by
  obtain ⟨ran', hran', h⟩ := List.mem_filterMap.mp h
  exact List.mem_filterMap.mpr ⟨ran', List.mem_cons_of_mem _ hran', h⟩

theorem Ordered.cons (h : Ordered cfg requests trace work) :
    Ordered cfg requests (ran :: trace) work := by
  induction h with
  | sent hreq hc hsent => exact .sent hreq hc.cons hsent
  | copied hreq hc hcopied _ ih => exact .copied hreq hc.cons hcopied ih
  | fired hc _ ih => exact .fired (created_cons hc) ih

end Traces

/-! ## What the requests create -/

/-- A request creates only runs that are ordered. -/
def Sends (cfg : Config) (requests : Nat → Option Request) : Condition Stmt Stmt.Result World Env :=
  fun i e q m =>
    ∀ params id, q = .createWorkflow params →
      Ordered cfg requests (⟨i, e, .createWorkflow params, .ok id⟩ :: m.trace) params.work

/-- Each payload is that of a run, and each work is ordered. -/
structure Filed (cfg : Config) (requests : Nat → Option Request) (m : Now) : Prop where
  referred : m.store.db.Referred
  ordered : ∀ runId work, m.store.db.work runId = some work → Ordered cfg requests m.trace work

section Steps
variable {cfg : Config} {requests : Nat → Option Request} {i : Nat} {e : Env} {q : Stmt} {m : Now}

theorem ordered_kept (work : Work) : Invariant store fun m => Ordered cfg requests m.trace work :=
  fun _ _ _ _ h _ => h.cons

theorem filed_kept : Invariant (store.restrict (Sends cfg requests)) (Filed cfg requests) := by
  rintro i e q m hm ⟨-, hsends⟩
  refine ⟨q.exec_referred e hm.referred, fun runId work hwork => ?_⟩
  have hc := q.exec_work e hm.referred runId
  rw [show (q.exec e m.store.db).2.work runId = some work from hwork] at hc
  show Ordered cfg requests (⟨i, e, q, (store.exec e q m.store).1⟩ :: m.trace) work
  generalize hold : m.store.db.work runId = old at hc
  cases hc with
  | same => exact (hm.ordered runId work hold).cons
  | @created params hok =>
      obtain ⟨id, hid⟩ := hok
      have hans : (store.exec e (.createWorkflow params) m.store).1 = .ok id := hid
      rw [hans]
      exact hsends params id rfl
  | @instantiated template fireAt work' hok hwork' =>
      have hans : (store.exec e (.createScheduleInstance template fireAt) m.store).1 =
          .ok (some e.fresh) := hok
      rw [hans]
      have hcreated : e.fresh ∈ created work'.runId fireAt
          (⟨i, e, .createScheduleInstance template fireAt, .ok (some e.fresh)⟩ :: m.trace) := by
        refine List.mem_filterMap.mpr ⟨_, List.mem_cons_self .., ?_⟩
        rw [instanceFor_eq_some, Db.runId_of_work hwork']
        rfl
      exact .fired hcreated (hm.ordered template work' hwork').cons

end Steps

/-! ## The handlers -/

section Judgements
variable {cfg : Config} {requests : Nat → Option Request} {i : Nat}

theorem creates_now (e : Env) (params : CreateWorkflow) (id : Uuid) (trace : List Ran) :
    Creates i params.runId (⟨i, e, .createWorkflow params, .ok id⟩ :: trace) :=
  ⟨_, List.mem_cons_self .., rfl, rfl⟩

/-- The requests that create a run of their own, or none. -/
theorem sends_of_reach {req : Request} {q : Stmt} (hreq : requests i = some req)
    (hq : req.reach cfg q) (hcopied : copied cfg req = none) (e : Env) (m : Now) :
    Sends cfg requests i e q m := by
  rintro params id rfl
  have hcreates : req.creates params := hq
  refine .sent hreq (creates_now e params id m.trace) ?_
  cases req with
  | startWorkflow r => exact congrArg some (show params.work = _ from hcreates).symm
  | createWorkflowSchedule r => exact congrArg some (show params.work = _ from hcreates).symm
  | retryWorkflow r => cases hcopied
  | triggerWorkflowSchedule r => cases hcopied
  | _ => exact hcreates.elim

/-- What a look at a run has found is ordered. -/
def Found (cfg : Config) (requests : Nat → Option Request) (runId : Uuid) (ns : String)
    (found : Option WorkflowRun) (m : Now) : Prop :=
  ∀ t, found = some t →
    t.runId = runId ∧ t.ns = ns ∧ Ordered cfg requests m.trace (t.toRunRow.work t.input)

theorem sat_findById (runId : Uuid) (ns : String) :
    Sat store (Sends cfg requests) i (Filed cfg requests) (stmt (.findById runId ns))
      (fun found m => Found cfg requests runId ns found m ∧ Filed cfg requests m) fun _ _ =>
        True := by
  have hread : Sat store (Sends cfg requests) i (Filed cfg requests) (sql (.findById runId ns))
      (fun found m => Found cfg requests runId ns found m ∧ Filed cfg requests m)
      fun _ => Filed cfg requests := by
    refine sat_sql_learn (fun _ _ _ _ => nofun) filed_kept ?_ ?_
    · intro found j e q m h _ t ht
      obtain ⟨hid, hns, hordered⟩ := h t ht
      exact ⟨hid, hns, hordered.cons⟩
    · rintro e m found hm - hres t rfl
      obtain ⟨-, hid, hns⟩ := run_of_findById hres
      exact ⟨hid, hns, (hm.ordered runId _ (work_of_findById hres)).cons⟩
  exact hread.mapError fun _ _ _ => trivial

/-- Creating a run with a new id, as a copy of one that has been found. -/
theorem sat_copy {work : Work} {params : Uuid → CreateWorkflow} {resp : Uuid → Uuid → Response}
    (h : ∀ runId e (m : Now) id, Ordered cfg requests m.trace work →
      Ordered cfg requests (⟨i, e, .createWorkflow (params runId), .ok id⟩ :: m.trace)
          (params runId).work) :
    Sat store (Sends cfg requests) i (fun m => Ordered cfg requests m.trace work)
      (do
        let newId ← stmt .newUuid
        let runId ← call (WorkflowRepository.create cfg.payloadMaxSizeBytes (params newId))
        pure (resp newId runId))
      (fun _ _ => True) fun _ _ => True := by
  have hnew : Sat store (Sends cfg requests) i (fun m => Ordered cfg requests m.trace work)
      (stmt .newUuid)
      (fun _ m => Ordered cfg requests m.trace work) fun _ _ => True :=
    (Sat.of_uses (uses_stmt (Eq.refl Stmt.newUuid)) (ordered_kept work).restrict.stable
      fun e q m hq hm _ => ⟨fun _ _ heq => by (rw [← hq] at heq; cases heq), hm.cons⟩).mono
      (fun _ h => h) (fun _ _ h => h) fun _ _ _ => trivial
  refine hnew.bind fun newId => Sat.bind (P := fun _ _ => True)
    (Sat.mapError (X := fun _ _ => True) ?_ fun _ _ _ => trivial)
    fun _ _ _ => trivial
  refine Sat.ofExcept_bind (fun _ _ => ?_) fun _ _ _ => trivial
  refine sat_sql (fun _ => stable_true) fun e m hm _ => ⟨?_, fun _ _ => trivial⟩
  intro params' id heq
  rw [← Stmt.createWorkflow.inj heq]
  exact h newId e m id hm

/-- A copy of a run that has been found, in the namespace of the request. -/
theorem ordered_of_copied {req : Request} {runId : Uuid} {ns : String} {t : WorkflowRun} {e : Env}
    {params : CreateWorkflow} {id : Uuid} {m : Now} (newId : Uuid) (hreq : requests i = some req)
    (hcopied : copied cfg req = some (some runId, ns)) (hfound : t.runId = runId ∧ t.ns = ns)
    (hparams : params.work = ⟨newId, ns, t.taskQueue, t.workflowType, t.input⟩)
    (hm : Ordered cfg requests m.trace (t.toRunRow.work t.input)) :
    Ordered cfg requests (⟨i, e, .createWorkflow params, .ok id⟩ :: m.trace) params.work := by
  obtain ⟨rfl, rfl⟩ := hfound
  have hid : params.runId = newId := congrArg Work.runId hparams
  rw [hparams]
  exact .copied hreq (hid ▸ creates_now e params id m.trace) hcopied hm.cons

theorem sat_retry {req : RetryWorkflowRequest} (hreq : requests i = some (.retryWorkflow req)) :
    Sat store (Sends cfg requests) i (Filed cfg requests) (WorkflowService.retryWorkflow cfg req)
      (fun _ _ => True) fun _ _ => True := by
  refine sat_uuid_bind (fun runId hid => ?_) fun _ _ _ => trivial
  have hcopied : copied cfg (.retryWorkflow req) = some (some runId, req.ns) := by
    simp [copied, hid]
  refine sat_requireNonEmpty_bind ?_ fun _ _ _ => trivial
  refine (sat_findById runId req.ns).bind fun found => ?_
  refine sat_orFail_bind (fun t ht => ?_) fun _ _ => trivial
  split
  next => exact fun _ _ => trivial
  next =>
    refine Sat.start (K := fun m => (t.runId = runId ∧ t.ns = req.ns) ∧
      Ordered cfg requests m.trace (t.toRunRow.work t.input))
      (Sat.of_fact fun hfound => ?_) fun m hm => ⟨⟨(hm.1 t ht).1, (hm.1 t ht).2.1⟩, (hm.1 t ht).2.2⟩
    exact sat_copy fun newId e m id hm => ordered_of_copied newId hreq hcopied hfound rfl hm

theorem sat_trigger {req : ScheduleRequest}
    (hreq : requests i = some (.triggerWorkflowSchedule req)) :
    Sat store (Sends cfg requests) i (Filed cfg requests)
      (ScheduleService.triggerWorkflowSchedule cfg req) (fun _ _ => True) fun _ _ => True := by
  refine sat_uuid_bind (fun runId hid => ?_) fun _ _ _ => trivial
  have hcopied : copied cfg (.triggerWorkflowSchedule req) = some (some runId, req.ns) := by
    simp [copied, hid]
  refine sat_requireNonEmpty_bind ?_ fun _ _ _ => trivial
  refine Sat.bind (P := fun t m => (t.runId = runId ∧ t.ns = req.ns) ∧
    Ordered cfg requests m.trace (t.toRunRow.work t.input)) ?_ fun t => Sat.of_fact fun hfound => ?_
  · refine (sat_findById runId req.ns).bind fun found => ?_
    cases found with
    | none => exact fun _ _ => trivial
    | some t =>
        intro m hm
        obtain ⟨hrunId, hns, hordered⟩ := hm.1 t rfl
        exact ⟨⟨hrunId, hns⟩, hordered⟩
  · exact sat_copy fun newId e m id hm => ordered_of_copied newId hreq hcopied hfound rfl hm

/-- What a request does that creates no copy leaves everything ordered. -/
theorem sat_reaches {ε α : Type} {req : Request} {p : Prog Stmt Stmt.Result ε α} {K : Now → Prop}
    (hreq : requests i = some req) (hcopied : copied cfg req = none) (hp : p.Uses (req.reach cfg))
    (hK : Invariant (store.restrict (Sends cfg requests)) K) :
    Sat store (Sends cfg requests) i K p (fun _ => K) fun _ => K :=
  Sat.of_uses hp hK.stable fun e q m hq hm ha =>
    have hsends := sends_of_reach hreq hq hcopied e m
    ⟨hsends, hK i e q m hm ⟨ha, hsends⟩⟩

/-- The answer of a poll is empty, or hands out work that is ordered and asked for. -/
def Delivered (cfg : Config) (requests : Nat → Option Request) (req : PollTaskRequest)
    (resp : Response) (trace : List Ran) : Prop :=
  resp = .pollTask "" "" [] ∨
    ∃ work, Ordered cfg requests trace work ∧ work.ns = req.ns ∧ work.taskQueue = req.taskQueue ∧
      work.workflowType ∈ req.workflowTypes ∧
      resp = .pollTask (cfg.uuidText work.runId) work.workflowType
        (bytesToPayload (some work.input))

/-- The run that a poll has taken. -/
def Taken (cfg : Config) (requests : Nat → Option Request) (req : PollTaskRequest)
    (types : List String) (item : ClaimedWorkflow) (m : Now) : Prop :=
  ∃ work, Ordered cfg requests m.trace work ∧ work.ns = req.ns ∧ work.taskQueue = req.taskQueue ∧
    (types = [] ∨ work.workflowType ∈ types) ∧ item.runId = work.runId ∧
    item.workflowType = work.workflowType ∧ item.input = work.input

theorem taken_kept {req : PollTaskRequest} {types : List String} (item : ClaimedWorkflow) :
    Invariant store (Taken cfg requests req types item) :=
  fun _ _ _ _ ⟨work, hordered, h⟩ _ => ⟨work, hordered.cons, h⟩

theorem sat_poll {req : PollTaskRequest} {types : List String} {secs : Int} :
    Sat store (Sends cfg requests) i (Filed cfg requests)
      (stmt (.pollWorkflow req.ns req.taskQueue req.workerId types secs))
      (fun found m => (∀ item, found = some item → Taken cfg requests req types item m) ∧
        Filed cfg requests m) fun _ _ => True := by
  have hread : Sat store (Sends cfg requests) i (Filed cfg requests)
      (sql (.pollWorkflow req.ns req.taskQueue req.workerId types secs))
      (fun found m => (∀ item, found = some item → Taken cfg requests req types item m) ∧
        Filed cfg requests m) fun _ => Filed cfg requests := by
    refine sat_sql_learn (fun _ _ _ _ => nofun) filed_kept ?_ ?_
    · exact fun found j e q m h ha item hitem => taken_kept item j e q m (h item hitem) ha.1
    · rintro e m found hm - hres item rfl
      obtain ⟨work, hwork, h⟩ := work_of_pollWorkflow hres
      exact ⟨work, (hm.ordered _ work hwork).cons, h⟩
  exact hread.mapError fun _ _ _ => trivial

theorem sat_dispatch {req : PollTaskRequest} {waits : Nat} {types : List String}
    (item : ClaimedWorkflow) (hreq : requests i = some (.pollTask req waits)) (hne : types ≠ [])
    (htypes : ∀ t ∈ types, t ∈ req.workflowTypes) :
    Sat store (Sends cfg requests) i (Taken cfg requests req types item)
        (WorkerService.dispatch cfg item)
      (fun resp m => Delivered cfg requests req resp m.trace) fun _ _ => True := by
  have hkept : Invariant (store.restrict (Sends cfg requests))
      (Taken cfg requests req types item) :=
    (taken_kept item).restrict
  have hsleeps := sat_reaches (ε := Status) (p := (sql (.completePendingSleeps item.runId)).attempt)
      hreq rfl
    (Prog.Uses.attempt (uses_sql trivial)) hkept
  have hrecord := sat_reaches (ε := Status) (p := (StepRepository.recordLifecycleEvent
    cfg.payloadMaxSizeBytes cfg.utf8 item.runId .workflowStarted none).attempt) hreq rfl
    (recordEvent_reaches cfg _ _ _ _).attempt hkept
  refine (hsleeps.mono (fun _ h => h) (fun _ _ h => h) fun _ _ _ => trivial).bind fun _ => ?_
  refine (hrecord.mono (fun _ h => h) (fun _ _ h => h) fun _ _ _ => trivial).bind fun _ => ?_
  rintro m ⟨work, hordered, hns, hqueue, htype, hid, hname, hinput⟩
  refine .inr ⟨work, hordered, hns, hqueue, htypes _ (htype.resolve_left hne), ?_⟩
  rw [hid, hname, hinput]

theorem sat_pollLoop {req : PollTaskRequest} {waits : Nat} {types : List String}
    (hreq : requests i = some (.pollTask req waits)) (hne : types ≠ [])
    (htypes : ∀ t ∈ types, t ∈ req.workflowTypes) (n : Nat) :
    Sat store (Sends cfg requests) i (Filed cfg requests) (WorkerService.pollLoop cfg req types n)
      (fun resp m => Delivered cfg requests req resp m.trace) fun _ _ => True := by
  induction n with
  | zero =>
      refine sat_poll.bind fun found => ?_
      cases found with
      | some item => exact (sat_dispatch item hreq hne htypes).start fun m hm => hm.1 item rfl
      | none => exact fun _ _ => .inl rfl
  | succ n ih =>
      refine sat_poll.bind fun found => ?_
      cases found with
      | some item => exact (sat_dispatch item hreq hne htypes).start fun m hm => hm.1 item rfl
      | none => exact ih.start fun m hm => hm.2

theorem sat_pollTask {req : PollTaskRequest} {waits : Nat}
    (hreq : requests i = some (.pollTask req waits)) :
    Sat store (Sends cfg requests) i (Filed cfg requests) (WorkerService.pollTask cfg req waits)
      (fun resp m => Delivered cfg requests req resp m.trace) fun _ _ => True := by
  refine sat_uuid_bind (fun workerId _ => ?_) fun _ _ _ => trivial
  split
  next => exact fun _ _ => trivial
  next =>
    refine sat_requireNonEmpty_bind ?_ fun _ _ _ => trivial
    have hfind : Sat store (Sends cfg requests) i (Filed cfg requests) (stmt (.findWorker workerId))
        (fun _ => Filed cfg requests) fun _ => Filed cfg requests :=
      sat_reaches hreq rfl (uses_stmt trivial) filed_kept
    refine (hfind.mono (fun _ h => h) (fun _ _ h => h) fun _ _ _ => trivial).bind fun found => ?_
    refine sat_orFail_bind (fun worker _ => ?_) fun _ _ => trivial
    split
    next => exact fun _ _ => trivial
    next =>
      split
      next => exact fun _ _ => trivial
      next =>
        split
        next => exact fun _ _ => trivial
        next =>
          dsimp only
          split
          next => exact fun _ _ => trivial
          next hne =>
            refine sat_pollLoop hreq (by simpa using hne) (fun t ht => ?_) waits
            simpa using (List.mem_filter.mp ht).2

end Judgements

/-! ## An id for each run -/

/-- The run that a statement has created. -/
def newborn (ran : Ran) : Option Uuid :=
  (inserted ran).or ((creation ran).bind fun slot => slot.2.2)

/-- No run has been created twice, and those that have been created are there or gone for good. -/
structure Once (m : Now) : Prop where
  apart : m.trace.Pairwise fun ran ran' => ∀ runId, newborn ran = some runId →
    newborn ran' ≠ some runId
  kept : ∀ ran ∈ m.trace, ∀ runId, newborn ran = some runId → m.store.Keeps runId fun _ => True

/-- A run is inserted under an id that is free. -/
theorem free_of_insertRun {db : Db} (row : RunRow) {input : Option Bytes} {a : Option Uuid}
    (h : (db.insertRun row input).1 = .ok a) : db.run row.runId = none := by
  unfold Db.insertRun at h
  split at h
  next => cases h
  next hi => exact Relational.Table.get?_key_of_insert? hi
  next hi => exact Relational.Table.get?_key_of_insert? hi

theorem free_of_createScheduleInstance {template runId : Uuid} {fireAt : Int} {e : Env} {w : World}
    (h : (store.exec e (.createScheduleInstance template fireAt) w).1 = .ok (some runId)) :
    runId = e.fresh ∧ w.run e.fresh = none := by
  obtain ⟨t, ht, hrow⟩ := instance_of_createScheduleInstance h
  refine ⟨(Db.runId_of_run hrow).symm, ?_⟩
  rw [store_exec_fst, Stmt.exec_ok h] at h
  have hrun : w.db.run template = some t := ht
  simp only [Stmt.sql, createScheduleInstance, hrun] at h
  split at h
  next => cases h
  next => exact free_of_insertRun (t.instanceOf e.fresh fireAt e.now) h

theorem newborn_fresh {i : Nat} {e : Env} {q : Stmt} {m : Now} {runId : Uuid}
    (hb : newborn ⟨i, e, q, (store.exec e q m.store).1⟩ = some runId) :
    q.newRun e = some runId ∧ m.store.run runId = none ∧
      ∃ r, (store.exec e q m.store).2.run runId = some r := by
  cases q with
  | createWorkflow params =>
      cases hans : (store.exec e (.createWorkflow params) m.store).1 with
      | error x =>
          rw [hans] at hb
          cases hb
      | ok id =>
          rw [hans] at hb
          obtain rfl : params.runId = runId := Option.some.inj hb
          exact ⟨rfl, free_of_createWorkflow hans, _, created_of_createWorkflow hans⟩
  | createScheduleInstance template fireAt =>
      cases hans : (store.exec e (.createScheduleInstance template fireAt) m.store).1 with
      | error x =>
          rw [hans] at hb
          cases hb
      | ok answer =>
          rw [hans] at hb
          obtain rfl : answer = some runId := hb
          obtain ⟨rfl, hfree⟩ := free_of_createScheduleInstance hans
          obtain ⟨t, -, hrow⟩ := instance_of_createScheduleInstance hans
          exact ⟨rfl, hfree, _, hrow⟩
  | _ => cases hb

theorem once_kept : Invariant store Once := by
  intro i e q m hm ha
  constructor
  · refine List.pairwise_cons.mpr ⟨fun ran hran runId hb hold => ?_, hm.apart⟩
    obtain ⟨hnew, hnone, -⟩ := newborn_fresh hb
    rcases hm.kept ran hran runId hold with ⟨r, hr, -⟩ | ⟨-, hgone⟩
    · rw [hnone] at hr
      cases hr
    · exact ha.2.1 runId hnew hgone
  · intro ran hran runId hb
    rcases List.mem_cons.mp hran with rfl | hran
    · obtain ⟨-, -, r, hr⟩ := newborn_fresh hb
      exact .inl ⟨r, hr, trivial⟩
    · exact (hm.kept ran hran runId hb).exec (fun _ _ _ _ => trivial) ha.2.1

/-- A run has been created by one statement. -/
theorem Once.eq {m : Now} {ran ran' : Ran} {runId : Uuid} (h : Once m) (hran : ran ∈ m.trace)
    (hran' : ran' ∈ m.trace) (hb : newborn ran = some runId) (hb' : newborn ran' = some runId) :
    ran = ran' := by
  have hsymm : Std.Symm fun ran ran' : Ran => ∀ runId, newborn ran = some runId →
      newborn ran' ≠ some runId :=
    ⟨fun _ _ hdiff runId hb hb' => hdiff runId hb' hb⟩
  by_contra hne
  exact h.apart.forall hran hran' hne runId hb hb'

theorem newborn_of_inserted {ran : Ran} {runId : Uuid} (h : inserted ran = some runId) :
    newborn ran = some runId ∧ creation ran = none := by
  obtain ⟨j, e, q, a⟩ := ran
  refine ⟨by rw [newborn, h]; rfl, ?_⟩
  cases q with
  | createScheduleInstance _ _ => cases h
  | _ => rfl

theorem newborn_of_created {template runId : Uuid} {fireAt : Int} {trace : List Ran}
    (h : runId ∈ created template fireAt trace) :
    ∃ ran ∈ trace, creation ran = some (template, fireAt, some runId) ∧
        newborn ran = some runId := by
  obtain ⟨ran, hran, hslot⟩ := List.mem_filterMap.mp h
  rw [instanceFor_eq_some] at hslot
  refine ⟨ran, hran, hslot, ?_⟩
  have hnone : inserted ran = none := by
    cases hb : inserted ran with
    | none => rfl
    | some id =>
        rw [(newborn_of_inserted hb).2] at hslot
        cases hslot
  rw [newborn, hnone, hslot]
  rfl

section Unique
variable {m : Now} {i j : Nat} {runId template template' : Uuid} {fireAt fireAt' : Int}

theorem Once.creates_eq (h : Once m) (hc : Creates i runId m.trace)
    (hc' : Creates j runId m.trace) :
    i = j := by
  obtain ⟨ran, hran, rfl, hb⟩ := hc
  obtain ⟨ran', hran', rfl, hb'⟩ := hc'
  rw [h.eq hran hran' (newborn_of_inserted hb).1 (newborn_of_inserted hb').1]

theorem Once.created_eq (h : Once m) (hc : runId ∈ created template fireAt m.trace)
    (hc' : runId ∈ created template' fireAt' m.trace) : template = template' := by
  obtain ⟨ran, hran, hslot, hb⟩ := newborn_of_created hc
  obtain ⟨ran', hran', hslot', hb'⟩ := newborn_of_created hc'
  rw [h.eq hran hran' hb hb', hslot'] at hslot
  exact (Prod.mk.inj (Option.some.inj hslot)).1.symm

/-- An instance has not been created by a request. -/
theorem Once.not_created (h : Once m) (hc : Creates i runId m.trace) :
    runId ∉ created template fireAt m.trace := by
  intro hc'
  obtain ⟨ran, hran, -, hb⟩ := hc
  obtain ⟨ran', hran', hslot, hb'⟩ := newborn_of_created hc'
  rw [← h.eq hran hran' (newborn_of_inserted hb).1 hb', (newborn_of_inserted hb).2] at hslot
  cases hslot

end Unique

theorem runId_of_sent {runId : Uuid} {req : Request} {work : Work}
    (h : sent runId req = some work) :
    work.runId = runId := by
  cases req with
  | startWorkflow _ => exact Option.some.inj h ▸ rfl
  | createWorkflowSchedule _ => exact Option.some.inj h ▸ rfl
  | _ => cases h

theorem copied_of_sent {cfg : Config} {runId : Uuid} {req : Request} {work : Work}
    (h : sent runId req = some work) : copied cfg req = none := by
  cases req with
  | startWorkflow _ => rfl
  | createWorkflowSchedule _ => rfl
  | _ => cases h

/-- What was sent for a run is unique. -/
theorem ordered_unique {cfg : Config} {requests : Nat → Option Request} {m : Now} (hm : Once m)
    {work work' : Work} (h : Ordered cfg requests m.trace work)
    (h' : Ordered cfg requests m.trace work') (hid : work.runId = work'.runId) : work = work' := by
  have hsame : ∀ {i j : Nat} {runId : Uuid} {req req' : Request}, requests i = some req →
      requests j = some req' → Creates i runId m.trace → Creates j runId m.trace → req = req' := by
    intro i j runId req req' hreq hreq' hc hc'
    rw [hm.creates_eq hc hc', hreq'] at hreq
    exact (Option.some.inj hreq).symm
  induction h generalizing work' with
  | @sent i req runId work hreq hc hsent =>
      obtain rfl := runId_of_sent hsent
      cases h' with
      | sent hreq' hc' hsent' =>
          obtain rfl := hid.trans (runId_of_sent hsent')
          obtain rfl := hsame hreq hreq' hc hc'
          exact Option.some.inj (hsent.symm.trans hsent')
      | @copied _ _ runId _ hreq' hc' hcopied' _ =>
          obtain rfl : work.runId = runId := hid
          obtain rfl := hsame hreq hreq' hc hc'
          rw [copied_of_sent hsent] at hcopied'
          cases hcopied'
      | @fired _ _ runId hc' _ =>
          obtain rfl : work.runId = runId := hid
          exact absurd hc' (hm.not_created hc)
  | @copied i req runId work hreq hc hcopied _ ih =>
      obtain rfl : runId = work'.runId := hid
      cases h' with
      | sent hreq' hc' hsent' =>
          obtain rfl := runId_of_sent hsent'
          obtain rfl := hsame hreq hreq' hc hc'
          rw [copied_of_sent hsent'] at hcopied
          cases hcopied
      | copied hreq' hc' hcopied' h' =>
          obtain rfl := hsame hreq hreq' hc hc'
          have hsource := (Prod.mk.inj (Option.some.inj (hcopied.symm.trans hcopied'))).1
          rw [ih h' (Option.some.inj hsource)]
      | fired hc' _ => exact absurd hc' (hm.not_created hc)
  | @fired work fireAt runId hc _ ih =>
      obtain rfl : runId = work'.runId := hid
      cases h' with
      | sent hreq' hc' hsent' =>
          obtain rfl := runId_of_sent hsent'
          exact absurd hc (hm.not_created hc')
      | copied hreq' hc' hcopied' h' => exact absurd hc (hm.not_created hc')
      | fired hc' h' => rw [ih h' (hm.created_eq hc hc')]

/-! ## The result -/

theorem filed_start (cfg : Config) (requests : Nat → Option Request) (now : Int) :
    Filed cfg requests ⟨.empty now, []⟩ :=
  ⟨nofun, nofun⟩

/-- In every run, all work that is stored, and all that a poll hands out, is what a client has
sent for the run, and there is one work for each run. -/
theorem work_is_delivered (cfg : Config) (now : Int) (p : ServerState)
    (h : Steps (service cfg) (.init (.empty now) []) p) :
    (∀ runId work, p.store.db.work runId = some work → Ordered cfg (requestsOf p) p.trace work) ∧
      (∀ i req waits resp, p.returned i = some (.pollTask req waits, resp) →
        Delivered cfg (requestsOf p) req resp p.trace) ∧
      ∀ work work', Ordered cfg (requestsOf p) p.trace work →
          Ordered cfg (requestsOf p) p.trace work' →
        work.runId = work'.runId → work = work' := by
  have hserve : ∀ i req c, p.calls[i]? = some (req, c) → (service cfg).accepts req →
      ∃ K, Stable (service cfg).toEngine (Sends cfg (requestsOf p)) i K ∧
        (∀ m, Filed cfg (requestsOf p) m → (∀ ran ∈ m.trace, ran.caller ≠ i) → K m) ∧
          Sat (service cfg).toEngine (Sends cfg (requestsOf p)) i K ((service cfg).spawn req)
            (fun resp m => ∀ r waits, req = .pollTask r waits →
              Delivered cfg (requestsOf p) r resp m.trace) fun _ _ => True := by
    intro i req c hget _
    have hreq : requestsOf p i = some req := congrArg (Option.map Prod.fst) hget
    refine ⟨Filed cfg (requestsOf p), filed_kept.stable, fun _ hm _ => hm, ?_⟩
    show Sat store _ i _ (handle cfg req) _ _
    cases hcopied : copied cfg req with
    | some source =>
        cases req with
        | retryWorkflow r =>
            exact (sat_retry hreq).mono (fun _ h => h) (fun _ _ _ _ _ => nofun) fun _ _ h => h
        | triggerWorkflowSchedule r =>
            exact (sat_trigger hreq).mono (fun _ h => h) (fun _ _ _ _ _ => nofun) fun _ _ h => h
        | _ => cases hcopied
    | none =>
        by_cases hpoll : ∃ r waits, req = .pollTask r waits
        · obtain ⟨r, waits, rfl⟩ := hpoll
          refine (sat_pollTask hreq).mono (fun _ h => h) (fun resp m hm r' waits' heq => ?_)
            fun _ _ h => h
          obtain ⟨rfl, -⟩ := Request.pollTask.inj heq
          exact hm
        · exact (sat_reaches hreq hcopied (handle_reaches cfg req) filed_kept).mono (fun _ h => h)
            (fun _ _ _ r waits heq => absurd ⟨r, waits, heq⟩ hpoll) fun _ _ _ => trivial
  obtain ⟨hsteps, hsound⟩ := h.sound_of (P := fun _ req resp m => ∀ r waits,
      req = .pollTask r waits →
    Delivered cfg (requestsOf p) r resp m.trace) (X := fun _ _ _ _ => True) hserve filed_kept
    (filed_start cfg _ now) (sound_nil _)
  have hfiled := hsteps.invariant filed_kept (filed_start cfg _ now)
  have honce := h.invariant once_kept ⟨.nil, fun _ hran => by cases hran⟩
  exact ⟨hfiled.ordered, fun i req waits resp hret =>
    hsound.result (Pool.calls_of_returned hret) req waits rfl, fun work work' hw hw' =>
      ordered_unique honce hw hw'⟩

/-- A run is started, and a worker polls for it. -/
def polled : ServerState := fireAll (service .sample) (.init (.empty 0) [])
  ([.start (.startWorkflow ⟨"job", "queue", "type", some [7], "ns", "", none⟩)] ++
      runs 0 6 (.quiet 0 1) ++
    [.start (.register ⟨"ns", "queue", ["type"], "", 0, ""⟩)] ++ runs 1 1 (.quiet 0 2) ++
    [.start (.pollTask ⟨"queue", "2", "ns", ["type"]⟩ 0)] ++ runs 2 7 (.quiet 1 3))

/-- The worker has got the input of the run, and the run its work. -/
theorem work_is_delivered_polled :
    Delivered .sample (requestsOf polled) ⟨"queue", "2", "ns", ["type"]⟩ (.pollTask "1" "type" [7])
        polled.trace ∧
      Ordered .sample (requestsOf polled) polled.trace ⟨1, "ns", "queue", "type", [7]⟩ := by
  have hsteps : Steps (service .sample) (.init (.empty 0) []) polled :=
    AllEnabled.steps (by decide +kernel)
  have h := work_is_delivered .sample 0 polled hsteps
  exact ⟨h.2.1 2 _ 0 _ (by decide +kernel), h.1 1 _ (by decide +kernel)⟩

end Delivery

end Kagzi
