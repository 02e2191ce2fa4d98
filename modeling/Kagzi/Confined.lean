import Kagzi.Server.Footprint
import Kagzi.Store.RunChange
import Kagzi.Store.StepChange

/-!
# Schedule requests and ordinary runs

A schedule is a row of the table of runs, and the requests of the schedule service
find it by the id or the external id of a run.  An ordinary run is one without a
cron expression.  The schema itself lets the deletion of a schedule reach its
instances: they lose their `schedule_id` (`instance_loses_schedule`).

Otherwise a request leaves every ordinary run that it does not name, its payload
and its steps as they are (`schedule_requests_confined`).  Resuming and triggering
look at the cron expression or write nothing, so that they may name any run.
-/

namespace Kagzi

open Atomic

namespace Confined

/-- The request belongs to the schedule service. -/
def IsScheduleRequest (req : Request) : Prop :=
  req.managesSchedules = true ∨ ∃ r, req = .triggerWorkflowSchedule r

/-- The server, while it handles nothing but the requests that are there. -/
abbrev alone (cfg : Config) : Service Stmt Stmt.Result World Env Request Status Response :=
  server cfg fun _ => False

/-- The steps of a run. -/
def stepsOf (w : World) (runId : Uuid) : List StepRow :=
  w.db.steps.rows.filter fun s => s.runId = runId

/-- The run, its payload and its steps are as they were. -/
def Unchanged (w w' : World) (runId : Uuid) : Prop :=
  w'.run runId = w.run runId ∧ w'.db.payload runId = w.db.payload runId ∧
    stepsOf w' runId = stepsOf w runId

/-- A request of the schedule service changes no ordinary run, wherever it
stops. -/
def SchedulesConfined (cfg : Config) : Prop :=
  ∀ (w : World) (req : Request) (p : ServerState), IsScheduleRequest req →
    Steps (alone cfg) (.init w [(req, handle cfg req)]) p →
    ∀ runId r, w.run runId = some r → r.cronExpr = none → Unchanged w p.store runId

/-- The request names the run, and does not look at whether it is a schedule. -/
def Names (cfg : Config) (r : RunRow) : Request → Prop
  | .pauseWorkflowSchedule req => cfg.parseUuid req.scheduleId = some r.runId ∧ r.ns = req.ns
  | .deleteWorkflowSchedule req => cfg.parseUuid req.scheduleId = some r.runId ∧ r.ns = req.ns
  | .updateWorkflowSchedule req =>
      cfg.parseUuid req.scheduleId = some r.runId ∧ r.ns = req.ns ∧ req.enabled = some false
  | .createWorkflowSchedule req =>
      r.ns = req.ns ∧ r.externalId = "schedule:" ++ req.scheduleId ∧ r.status.isTerminal = false
  | _ => False

/-- The request deletes the schedule of the run. -/
def DeletesSchedule (cfg : Config) (r : RunRow) : Request → Prop
  | .deleteWorkflowSchedule req => ∃ t, cfg.parseUuid req.scheduleId = some t ∧ r.scheduleId = some t
  | _ => False

/-! ## What the statements may do -/

section Statements
variable (cfg : Config) (req : Request) (w : World) (r : RunRow)

/-- The run is as it was, or has lost its schedule. -/
structure Spared (db : Db) : Prop where
  run : db.run r.runId = some r ∨ (DeletesSchedule cfg r req ∧ db.run r.runId = some r.orphan)
  payload : db.payload r.runId = w.db.payload r.runId
  steps : (db.steps.rows.filter fun s => s.runId = r.runId) = stepsOf w r.runId

/-- The statements that leave the run to itself. -/
def Permitted : Stmt → Prop
  | .createWorkflow _ => True
  | .updateWorkflow target _ => target ≠ r.runId
  | .deletePayload target => target ≠ r.runId
  | .deleteRun target => target ≠ r.runId ∧
      ∃ d, req = .deleteWorkflowSchedule d ∧ cfg.parseUuid d.scheduleId = some target
  | q => q.sparesRuns = true ∧ q.sparesSteps = true

/-- The answers of a statement while the run is spared. -/
def Answers (q : Stmt) (a : q.Result) : Prop :=
  ∃ e db, Spared cfg req w r db ∧ a = (q.exec e db).1

end Statements

section Effects
variable {cfg : Config} {req : Request} {w : World} {r : RunRow} {db : Db} {e : Env} {q : Stmt}

theorem Spared.exists_run (h : Spared cfg req w r db) :
    ∃ r', db.run r.runId = some r' ∧ (r' = r ∨ r' = r.orphan) := by
  rcases h.run with h | ⟨-, h⟩
  · exact ⟨r, h, .inl rfl⟩
  · exact ⟨r.orphan, h, .inr rfl⟩

theorem exec_steps (hq : Permitted cfg req r q) : (q.exec e db).2.steps = db.steps := by
  have hspare : q.sparesSteps = true := by
    cases q with
    | createWorkflow _ => rfl
    | updateWorkflow _ _ => rfl
    | deletePayload _ => rfl
    | deleteRun _ => rfl
    | _ => exact hq.2
  rcases q.exec_cases e db with hx | hx
  · rw [hx]
  · rw [hx]
    exact Stmt.sql_sparesSteps hspare e db

/-- A run that is there is not created again. -/
theorem createWorkflow_of_run {params : CreateWorkflow} (h : db.run params.runId = some r) :
    ((Stmt.createWorkflow params).exec e db).2 = db := by
  cases hres : ((Stmt.createWorkflow params).exec e db).1 with
  | error x => exact createWorkflow_error hres
  | ok id =>
      have hfree : db.run params.runId = none := free_of_createWorkflow (w := ⟨0, db, []⟩) hres
      rw [h] at hfree
      cases hfree

theorem exec_payload (h : Spared cfg req w r db) (hq : Permitted cfg req r q) :
    (q.exec e db).2.payload r.runId = db.payload r.runId := by
  have hchange := q.exec_payload e db r.runId
  generalize hold : db.payload r.runId = old at hchange
  generalize hnew : (q.exec e db).2.payload r.runId = new at hchange
  cases hchange with
  | same => rfl
  | @created params =>
      have hid : params.runId = r.runId := Db.runId_of_payload hnew
      obtain ⟨r', hr', -⟩ := h.exists_run
      rw [createWorkflow_of_run (hid ▸ hr'), hold] at hnew
      cases hnew
  | instantiated => cases hq.1
  | completed => cases hq.1
  | written => cases hq.1
  | @deleted q p hdel =>
      have hid : p.runId = r.runId := Db.runId_of_payload hold
      cases q with
      | deletePayload target => exact absurd ((Option.some.inj hdel).trans hid) hq
      | deleteRun target => exact absurd ((Option.some.inj hdel).trans hid) hq.1
      | _ => cases hdel

theorem exec_run (h : Spared cfg req w r db) (hq : Permitted cfg req r q) :
    (q.exec e db).2.run r.runId = some r ∨
      (DeletesSchedule cfg r req ∧ (q.exec e db).2.run r.runId = some r.orphan) := by
  obtain ⟨r', hr', hcase⟩ := h.exists_run
  have hid : r'.runId = r.runId := Db.runId_of_run hr'
  have hchange := q.exec_run e db r.runId
  rw [hr'] at hchange
  have hkept : some r' = db.run r.runId := hr'.symm
  generalize (q.exec e db).2.run r.runId = new at hchange
  cases hchange with
  | same => exact hkept ▸ h.run
  | overwritten => exact absurd hid hq
  | deleted => exact absurd hid hq.1
  | @orphaned t _ hschedule _ =>
      obtain ⟨-, d, rfl, hd⟩ := hq
      rcases hcase with rfl | rfl
      · exact .inr ⟨⟨t, hd, hschedule⟩, rfl⟩
      · cases hschedule
  | _ => cases hq.1

theorem Spared.exec (h : Spared cfg req w r db) (hq : Permitted cfg req r q) :
    Spared cfg req w r (q.exec e db).2 where
  run := exec_run h hq
  payload := (exec_payload h hq).trans h.payload
  steps := by
    rw [exec_steps hq]
    exact h.steps

end Effects

/-! ## What the requests learn -/

section Learning
variable {cfg : Config} {req : Request} {w : World} {r : RunRow}

/-- A template that was found by the id of the run is the run. -/
theorem found_of_findById {runId : Uuid} {ns : String} {t : WorkflowRun}
    (h : Answers cfg req w r (.findById runId ns) (.ok (some t))) (hid : runId = r.runId) :
    t.cronExpr = r.cronExpr ∧ r.ns = ns := by
  obtain ⟨e, db, hspared, hres⟩ := h
  obtain ⟨hrun, -, hns⟩ := run_of_findById (w := ⟨0, db, []⟩) hres.symm
  obtain ⟨r', hr', hcase⟩ := hspared.exists_run
  have htr : some t.toRunRow = some r' := by
    rw [← hr', ← hid]
    exact hrun.symm
  have hrow : t.toRunRow = r' := Option.some.inj htr
  have hcron : t.cronExpr = r'.cronExpr := congrArg RunRow.cronExpr hrow
  have htns : t.ns = r'.ns := congrArg RunRow.ns hrow
  rw [hcron, ← hns, htns]
  rcases hcase with rfl | rfl
  · exact ⟨rfl, rfl⟩
  · exact ⟨rfl, rfl⟩

/-- A run that was found by its external id has it, and is not over. -/
theorem found_of_findActive {ns externalId : String} {runId : Uuid}
    (h : Answers cfg req w r (.findActiveByExternalId ns externalId) (.ok (some runId)))
    (hid : runId = r.runId) : r.ns = ns ∧ r.externalId = externalId ∧ r.status.isTerminal = false := by
  obtain ⟨e, db, hspared, hres⟩ := h
  have hres : ((Stmt.findActiveByExternalId ns externalId).exec e db).1 = .ok (some runId) :=
    hres.symm
  rw [Stmt.exec_ok hres] at hres
  obtain ⟨r'', hfind, hid'⟩ := Option.map_eq_some_iff.mp (Except.ok.inj hres)
  obtain ⟨r', hr', hcase⟩ := hspared.exists_run
  have hmem := Db.run_of_mem (List.mem_of_find?_eq_some hfind)
  rw [hid', hid, hr'] at hmem
  obtain rfl := Option.some.inj hmem
  have hprops := List.find?_some hfind
  simp only [Bool.and_eq_true, decide_eq_true_eq, Bool.not_eq_true'] at hprops
  rcases hcase with rfl | rfl
  · exact ⟨hprops.1.1, hprops.1.2, hprops.2⟩
  · exact ⟨hprops.1.1, hprops.1.2, hprops.2⟩

/-- A run that has just been created is another one. -/
theorem created_ne {params : CreateWorkflow} {id : Uuid}
    (h : Answers cfg req w r (.createWorkflow params) (.ok id)) : params.runId ≠ r.runId := by
  obtain ⟨e, db, hspared, hres⟩ := h
  have hfree : db.run params.runId = none := free_of_createWorkflow (w := ⟨0, db, []⟩) hres.symm
  obtain ⟨r', hr', -⟩ := hspared.exists_run
  intro hid
  rw [hid, hr'] at hfree
  cases hfree

end Learning

/-! ## The requests -/

section Requests
variable {cfg : Config} {w : World} {r : RunRow}

/-- The part of the request keeps to the permitted statements. -/
abbrev Keeps (cfg : Config) (w : World) (r : RunRow) (req : Request) {ε α : Type}
    (p : Prog Stmt Stmt.Result ε α) : Prop :=
  p.Within (Answers cfg req w r) (Permitted cfg req r) (fun _ => True) (fun _ => True)

variable {req : Request}

theorem keeps_stmt {q : Stmt} (h : Permitted cfg req r q) : Keeps cfg w r req (stmt q) :=
  within_stmt h (fun _ _ => trivial) fun _ _ => trivial

theorem keeps_stmt_bind {q : Stmt} {α : Type} {f : q.Ans → Rpc α} (h : Permitted cfg req r q)
    (hf : ∀ a, Keeps cfg w r req (f a)) : Keeps cfg w r req (stmt q >>= f) :=
  (keeps_stmt h).bind fun a _ => hf a

theorem keeps_ofExcept {α : Type} (a : Except Status α) :
    Keeps cfg w r req (Prog.ofExcept a) :=
  Prog.within_ofExcept (fun _ _ => trivial) fun _ _ => trivial

theorem keeps_answer (t : WorkflowRun) : Keeps cfg w r req (ScheduleService.answer cfg t) :=
  (keeps_ofExcept _).bind fun _ _ => trivial

theorem within_find (runId : Uuid) (ns scheduleId : String) :
    (ScheduleService.find runId ns scheduleId).Within (Answers cfg req w r) (Permitted cfg req r)
      (fun t => runId = r.runId → t.cronExpr = r.cronExpr ∧ r.ns = ns) (fun _ => True) := by
  refine Prog.Within.bind (within_stmt (R := fun found => ∀ t, found = some t → runId = r.runId →
    t.cronExpr = r.cronExpr ∧ r.ns = ns) ⟨rfl, rfl⟩ ?_ fun _ _ => trivial) fun found hfound => ?_
  · rintro found h t rfl hid
    exact found_of_findById h hid
  · cases found with
    | none => trivial
    | some t => exact hfound t rfl

theorem keeps_getOrCreate (ns : String) : Keeps cfg w r req (call (NamespaceRepository.getOrCreate ns)) := by
  refine Prog.Within.mapError (X := fun _ => True) ?_ fun _ _ => trivial
  refine (within_sql ⟨rfl, rfl⟩ (fun _ _ => trivial) fun _ _ => trivial).bind fun found (_ : True) => ?_
  cases found with
  | some _ => trivial
  | none =>
      refine (within_sql ⟨rfl, rfl⟩ (fun _ _ => trivial) fun _ _ => trivial).bind fun now (_ : True) => ?_
      exact within_sql ⟨rfl, rfl⟩ (fun _ _ => trivial) fun _ _ => trivial

/-- A new run is another one. -/
theorem within_create (max : Nat) (params : CreateWorkflow) :
    (call (WorkflowRepository.create max params)).Within (Answers cfg req w r) (Permitted cfg req r)
      (fun _ => params.runId ≠ r.runId) (fun _ => True) := by
  refine Prog.Within.mapError (X := fun _ => True) ?_ fun _ _ => trivial
  refine (Prog.within_ofExcept (P := fun _ => True) (fun _ _ => trivial) fun _ _ => trivial).bind
    fun _ _ => ?_
  exact within_sql trivial (fun _ h => created_ne h) fun _ _ => trivial

theorem keeps_createWorkflowSchedule {req : CreateWorkflowScheduleRequest}
    (hother : ¬ Names cfg r (.createWorkflowSchedule req)) :
    Keeps cfg w r (.createWorkflowSchedule req) (ScheduleService.createWorkflowSchedule cfg req) := by
  refine within_requireNonEmpty_bind (fun _ => ?_) fun _ => trivial
  refine within_requireNonEmpty_bind (fun _ => ?_) fun _ => trivial
  refine within_requireNonEmpty_bind (fun _ => ?_) fun _ => trivial
  refine within_requireNonEmpty_bind (fun _ => ?_) fun _ => trivial
  refine within_requireNonEmpty_bind (fun _ => ?_) fun _ => trivial
  refine (keeps_getOrCreate req.ns).bind fun _ _ => ?_
  refine keeps_stmt_bind ⟨rfl, rfl⟩ fun now => ?_
  refine (keeps_ofExcept _).bind fun firstFire _ => ?_
  refine Prog.Within.bind (within_stmt (R := fun found => ∀ runId, found = some runId →
    runId ≠ r.runId) ⟨rfl, rfl⟩ ?_ fun _ _ => trivial) fun found hfound => ?_
  · rintro found h runId rfl hid
    exact hother (found_of_findActive h hid)
  · cases found with
    | some runId =>
        refine keeps_stmt_bind ⟨rfl, rfl⟩ fun found => ?_
        refine within_orFail_bind (fun existing _ => ?_) fun _ => trivial
        exact keeps_stmt_bind (hfound runId rfl) fun _ => keeps_answer _
    | none =>
        refine keeps_stmt_bind ⟨rfl, rfl⟩ fun runId => ?_
        refine (within_create _ _).bind fun _ hne => ?_
        refine keeps_stmt_bind ⟨rfl, rfl⟩ fun found => ?_
        refine within_orFail_bind (fun template _ => ?_) fun _ => trivial
        exact keeps_stmt_bind hne fun _ => keeps_answer _

theorem keeps_pauseWorkflowSchedule {req : ScheduleRequest}
    (hother : ¬ Names cfg r (.pauseWorkflowSchedule req)) :
    Keeps cfg w r (.pauseWorkflowSchedule req) (ScheduleService.pauseWorkflowSchedule cfg req) := by
  refine within_uuid_bind (fun runId hid => ?_) fun _ => trivial
  refine within_requireNonEmpty_bind (fun _ => ?_) fun _ => trivial
  refine (within_find _ _ _).bind fun schedule hfound => ?_
  have hne : runId ≠ r.runId := by
    rintro rfl
    exact hother ⟨hid, (hfound rfl).2⟩
  exact keeps_stmt_bind hne fun _ => keeps_answer _

/-- A run without a cron expression is not what was found when one was. -/
theorem ne_of_cronOf {runId : Uuid} {ns : String} {t : WorkflowRun} {message : String} {cron : Recurrence}
    (hord : r.cronExpr = none) (hfound : runId = r.runId → t.cronExpr = r.cronExpr ∧ r.ns = ns)
    (h : ScheduleService.cronOf cfg t message = .ok cron) : runId ≠ r.runId := by
  intro hid
  rw [ScheduleService.cronOf, (hfound hid).1, hord] at h
  cases h

theorem keeps_resumeWorkflowSchedule {req : ScheduleRequest} (hord : r.cronExpr = none) :
    Keeps cfg w r (.resumeWorkflowSchedule req)
      (ScheduleService.resumeWorkflowSchedule cfg req) := by
  refine within_uuid_bind (fun runId _ => ?_) fun _ => trivial
  refine within_requireNonEmpty_bind (fun _ => ?_) fun _ => trivial
  refine (within_find _ _ _).bind fun schedule hfound => ?_
  refine (Prog.within_ofExcept (P := fun _ => runId ≠ r.runId)
    (fun cron h => ne_of_cronOf hord hfound h) fun _ _ => trivial).bind fun cron hne => ?_
  refine keeps_stmt_bind ⟨rfl, rfl⟩ fun now => ?_
  refine (keeps_ofExcept _).bind fun nextFire _ => ?_
  exact keeps_stmt_bind hne fun _ => keeps_answer _

theorem keeps_checkCron (cronExpr : Option String) :
    Keeps cfg w r req (ScheduleService.checkCron cfg cronExpr) := by
  cases cronExpr with
  | none => trivial
  | some expr =>
      refine (keeps_ofExcept _).bind fun cron _ => keeps_stmt_bind ⟨rfl, rfl⟩ fun now => ?_
      exact (keeps_ofExcept _).bind fun _ _ => trivial

theorem keeps_updateWorkflowSchedule {req : UpdateWorkflowScheduleRequest} (hord : r.cronExpr = none)
    (hother : ¬ Names cfg r (.updateWorkflowSchedule req)) :
    Keeps cfg w r (.updateWorkflowSchedule req)
      (ScheduleService.updateWorkflowSchedule cfg req) := by
  refine within_uuid_bind (fun runId hid => ?_) fun _ => trivial
  refine within_requireNonEmpty_bind (fun _ => ?_) fun _ => trivial
  refine (within_find _ _ _).bind fun current hfound => ?_
  refine (keeps_checkCron _).bind fun _ _ => ?_
  have hset : Keeps cfg w r (.updateWorkflowSchedule req)
      (ScheduleService.setEnabled cfg runId current req.enabled) := by
    unfold ScheduleService.setEnabled
    split
    next =>
      refine (Prog.within_ofExcept (P := fun _ => runId ≠ r.runId)
        (fun cron h => ne_of_cronOf hord hfound h) fun _ _ => trivial).bind fun cron hne => ?_
      refine keeps_stmt_bind ⟨rfl, rfl⟩ fun now => (keeps_ofExcept _).bind fun fire _ => ?_
      exact keeps_stmt hne
    next henabled =>
      refine keeps_stmt (show runId ≠ r.runId from ?_)
      rintro rfl
      exact hother ⟨hid, (hfound rfl).2, henabled⟩
    next => trivial
  refine hset.bind fun _ _ => (within_find _ _ _).bind fun _ _ => keeps_answer _

theorem keeps_deleteWorkflowSchedule {req : ScheduleRequest}
    (hother : ¬ Names cfg r (.deleteWorkflowSchedule req)) :
    Keeps cfg w r (.deleteWorkflowSchedule req)
      (ScheduleService.deleteWorkflowSchedule cfg req) := by
  refine within_uuid_bind (fun runId hid => ?_) fun _ => trivial
  refine within_requireNonEmpty_bind (fun _ => ?_) fun _ => trivial
  refine (within_find _ _ _).bind fun schedule hfound => ?_
  have hne : runId ≠ r.runId := by
    rintro rfl
    exact hother ⟨hid, (hfound rfl).2⟩
  refine Prog.Within.bind (P := fun _ => True) ?_ fun _ _ => trivial
  refine Prog.Within.mapError (X := fun _ => True) ?_ fun _ _ => trivial
  refine (within_sql hne (P := fun _ => True) (fun _ _ => trivial) fun _ _ => trivial).bind
    fun _ _ => ?_
  exact within_sql ⟨hne, req, rfl, hid⟩ (fun _ _ => trivial) fun _ _ => trivial

theorem keeps_triggerWorkflowSchedule (req : ScheduleRequest) :
    Keeps cfg w r (.triggerWorkflowSchedule req)
      (ScheduleService.triggerWorkflowSchedule cfg req) := by
  refine within_uuid_bind (fun scheduleId _ => ?_) fun _ => trivial
  refine within_requireNonEmpty_bind (fun _ => ?_) fun _ => trivial
  refine (within_find _ _ _).bind fun schedule _ => ?_
  refine keeps_stmt_bind ⟨rfl, rfl⟩ fun runId => ?_
  exact (within_create _ _).bind fun _ _ => trivial

theorem keeps_handle (hreq : IsScheduleRequest req) (hord : r.cronExpr = none)
    (hother : ¬ Names cfg r req) : Keeps cfg w r req (handle cfg req) := by
  cases req with
  | createWorkflowSchedule req => exact keeps_createWorkflowSchedule hother
  | updateWorkflowSchedule req => exact keeps_updateWorkflowSchedule hord hother
  | deleteWorkflowSchedule req => exact keeps_deleteWorkflowSchedule hother
  | triggerWorkflowSchedule req => exact keeps_triggerWorkflowSchedule req
  | pauseWorkflowSchedule req => exact keeps_pauseWorkflowSchedule hother
  | resumeWorkflowSchedule req => exact keeps_resumeWorkflowSchedule hord
  | _ =>
      rcases hreq with h | ⟨d, h⟩
      · cases h
      · cases h

end Requests

/-! ## The result -/

/-- A request of the schedule service leaves every ordinary run that it does not
name, its payload and its steps as they are, wherever it stops.  The deletion of
the schedule of a run takes its `schedule_id`. -/
theorem schedule_requests_confined (cfg : Config) (w : World) (req : Request) (p : ServerState)
    (hreq : IsScheduleRequest req) (h : Steps (alone cfg) (.init w [(req, handle cfg req)]) p)
    (runId : Uuid) (r : RunRow) (hr : w.run runId = some r) (hord : r.cronExpr = none)
    (hother : ¬ Names cfg r req) :
    p.store.db.payload runId = w.db.payload runId ∧ stepsOf p.store runId = stepsOf w runId ∧
      (p.store.run runId = some r ∨
        DeletesSchedule cfg r req ∧ p.store.run runId = some r.orphan) := by
  obtain rfl : r.runId = runId := Db.runId_of_run hr
  have hstart : Spared cfg req w r w.db := ⟨.inl hr, rfl, rfl⟩
  have hspared : Spared cfg req w r p.store.db := by
    have hcalls : ∀ (i : Nat) (req' : Request) (c : Rpc Response),
        (Pool.init w [(req, handle cfg req)] : ServerState).calls[i]? = some (req', c) →
        Keeps cfg w r req c := by
      intro i req' c hget
      change [(req, handle cfg req)][i]? = some (req', c) at hget
      rw [List.getElem?_singleton] at hget
      split at hget
      next =>
        obtain ⟨rfl, rfl⟩ := Prod.mk.inj (Option.some.inj hget)
        exact keeps_handle hreq hord hother
      next => cases hget
    have hspawn : ∀ req', (alone cfg).accepts req' → Keeps cfg w r req ((alone cfg).spawn req') :=
      fun _ ha => ha.elim
    exact (h.within (I := fun m => Spared cfg req w r m.store.db)
      (fun _ e q m hm _ => ⟨e, m.store.db, hm, rfl⟩) (fun _ _ _ _ _ hm hq _ => hm.exec hq) hspawn
      hstart hcalls).1
  exact ⟨hspared.payload, hspared.steps, hspared.run⟩

/-! ## The instance of a schedule that is deleted -/

/-- A schedule is created and triggered. -/
def triggered : List (Action Env Request) :=
  createTenSeconds none ++
    [.start (.triggerWorkflowSchedule ⟨"ns", "1"⟩)] ++ runs 1 3 (.quiet 5 2)

/-- The store with the schedule and its instance. -/
def triggeredWorld : World :=
  (fireAll (server .sample fun _ => True) (.init (.empty 0) []) triggered).store

/-- The row of the instance. -/
def triggeredRow : RunRow where
  runId := 2
  ns := "ns"
  externalId := "schedule-1-2"
  taskQueue := "queue"
  workflowType := "type"
  status := .pending
  lockedBy := none
  attempts := 0
  createdAt := some (seconds 5)
  startedAt := none
  finishedAt := none
  retryPolicy := none
  version := some ""
  error := none
  availableAt := some (seconds 5)
  cronExpr := none
  scheduleId := some 1
  lastFiredAt := none
  maxCatchup := 50

/-- The deletion of the schedule. -/
def deleteTriggered : Request := .deleteWorkflowSchedule ⟨"ns", "1"⟩

/-- The state after the deletion. -/
def afterDelete : ServerState :=
  fireAll (alone .sample) (.init triggeredWorld [(deleteTriggered, handle .sample deleteTriggered)])
    (runs 0 3 (.quiet 6 3))

theorem afterDelete_steps :
    Steps (alone .sample)
      (.init triggeredWorld [(deleteTriggered, handle .sample deleteTriggered)]) afterDelete :=
  AllEnabled.steps (by decide +kernel)

theorem triggeredWorld_run : triggeredWorld.run 2 = some triggeredRow := by decide +kernel

/-- The instance is there, and its payload is. -/
theorem schedule_requests_confined_triggered :
    afterDelete.store.db.payload 2 = triggeredWorld.db.payload 2 ∧
      (afterDelete.store.run 2).map RunRow.status = some .pending := by
  have hother : ¬ Names .sample triggeredRow deleteTriggered := by
    intro h
    exact absurd h.1 (by decide)
  obtain ⟨hpayload, -, hrun⟩ := schedule_requests_confined .sample triggeredWorld deleteTriggered
    afterDelete (.inl rfl) afterDelete_steps 2 triggeredRow triggeredWorld_run rfl hother
  refine ⟨hpayload, ?_⟩
  rcases hrun with h | ⟨-, h⟩
  · rw [h]
    rfl
  · rw [h]
    rfl

/-- The instance loses its `schedule_id`. -/
theorem instance_loses_schedule : ¬ SchedulesConfined .sample := by
  intro hconfined
  obtain ⟨hrun, -⟩ := hconfined triggeredWorld deleteTriggered afterDelete (.inl rfl)
    afterDelete_steps 2 triggeredRow triggeredWorld_run rfl
  have horphan : (afterDelete.store.run 2).map RunRow.scheduleId = some none := by decide +kernel
  rw [hrun, triggeredWorld_run] at horphan
  cases horphan

end Confined

end Kagzi
