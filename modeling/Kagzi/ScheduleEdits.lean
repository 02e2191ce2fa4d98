import Kagzi.Server.Footprint
import Kagzi.Server.Templates

/-!
# Edits of schedules

`UpdateWorkflowSchedule` and a repeated `CreateWorkflowSchedule` edit the template of a
schedule.  The first has eight optional fields and checks the cron expression among them,
but writes only the status, and the next fire time of the old expression when it enables
the schedule.  The second overwrites the cron expression, the fire time, the status and
the catch-up limit, the last two also when they are not set, and never the task queue, the
workflow type, the input and the version.

`edits_take_effect_iff` says when an edit takes effect: if the fields that the handler
does not write have the requested values already, and those that it writes without being
asked have the values that it writes.
-/

namespace Kagzi

open Atomic

namespace ScheduleEdits

open ScheduleService (nextFireFromNow enabledStatus)

/-- The server, for all requests. -/
abbrev service (cfg : Config) : Service Stmt Stmt.Result World Env Request Status Response :=
  server cfg fun _ => True

/-- The state after a request has arrived and its handler has made a statement in each of
the supplies. -/
def afterCall (cfg : Config) (p : ServerState) (req : Request) (es : List Env) : ServerState :=
  fireAll (service cfg) p (.start req :: es.map (.exec p.calls.length))

/-- The run with its payload. -/
def stored (w : World) (runId : Uuid) : Option WorkflowRun := (w.run runId).bind w.db.joined

/-! ## What a request asks for -/

/-- The fields of a schedule that a request sets.  `movesFire` says that the next fire time
is one of them, which the request may leave unset. -/
structure Edit where
  taskQueue : Option String
  workflowType : Option String
  cronExpr : Option String
  input : Option Bytes
  enabled : Option Bool
  maxCatchup : Option Int
  version : Option String
  movesFire : Bool
  nextFireAt : Option Int
deriving DecidableEq

/-- The fields that an edit sets. -/
def editOf : Request → Option Edit
  | .updateWorkflowSchedule req =>
      some ⟨req.taskQueue, req.workflowType, req.cronExpr, req.input, req.enabled, req.maxCatchup,
        req.version, true, req.nextFireAt⟩
  | .createWorkflowSchedule req =>
      some ⟨some req.taskQueue, some req.workflowType, some req.cronExpr, req.input, req.enabled,
        req.maxCatchup, req.version, false, none⟩
  | _ => none

/-- The template that the request edits. -/
def edited (cfg : Config) (w : World) : Request → Option Uuid
  | .updateWorkflowSchedule req => cfg.parseUuid req.scheduleId
  | .createWorkflowSchedule req =>
      (w.db.runs.rows.find? fun r => r.ns = req.ns && r.externalId = "schedule:" ++ req.scheduleId &&
        !r.status.isTerminal).map RunRow.runId
  | _ => none

/-- The next fire time is the requested one.  Without one it is the first occurrence of a
new cron expression after a moment of the request, and is kept if the expression is. -/
def FiresAsAsked (cfg : Config) (edit : Edit) (es : List Env) (before after : WorkflowRun) : Prop :=
  match edit.nextFireAt with
  | some time => after.availableAt = some time
  | none =>
      if edit.cronExpr.or before.cronExpr = before.cronExpr then
        edit.movesFire = true → after.availableAt = before.availableAt
      else
        ∃ expr ∈ edit.cronExpr, ∃ e ∈ es, ∃ time, nextFireFromNow cfg expr e.now = .ok time ∧
          after.availableAt = some time

/-- Every field that is set has the requested value, and the others are as they were. -/
structure TakesEffect (cfg : Config) (edit : Edit) (es : List Env) (before after : WorkflowRun) :
    Prop where
  taskQueue : after.taskQueue = edit.taskQueue.getD before.taskQueue
  workflowType : after.workflowType = edit.workflowType.getD before.workflowType
  cronExpr : after.cronExpr = edit.cronExpr.or before.cronExpr
  input : after.input = edit.input.getD before.input
  enabled : after.status = (edit.enabled.map enabledStatus).getD before.status
  maxCatchup : after.maxCatchup = edit.maxCatchup.getD before.maxCatchup
  version : after.version.getD "" = edit.version.getD (before.version.getD "")
  fire : FiresAsAsked cfg edit es before after

/-- Every edit that is answered with success takes effect. -/
def EveryEditTakesEffect (cfg : Config) : Prop :=
  ∀ (w : World) (p : ServerState), Steps (service cfg) (.init w []) p →
    ∀ req edit runId before es resp, editOf req = some edit → edited cfg p.store req = some runId →
      stored p.store runId = some before →
        (afterCall cfg p req es).returned p.calls.length = some (req, resp) →
          ∃ after, stored (afterCall cfg p req es).store runId = some after ∧
            TakesEffect cfg edit es before after

/-! ## The condition -/

/-- The fire time that an update leaves: it writes one when it enables the schedule, the
first of the old expression after its clock. -/
def fireLeft (cfg : Config) (req : UpdateWorkflowScheduleRequest) (es : List Env)
    (before : WorkflowRun) : Option Int :=
  if req.enabled = some true then
    es[if req.cronExpr.isSome then 2 else 1]?.bind fun e =>
      before.cronExpr.bind fun expr => (nextFireFromNow cfg expr e.now).toOption
  else before.availableAt

/-- An update asks for nothing but `enabled`, and its fire time is the requested one, or
the old one if none is requested. -/
structure UpdateHolds (cfg : Config) (req : UpdateWorkflowScheduleRequest) (es : List Env)
    (before : WorkflowRun) : Prop where
  taskQueue : ∀ v ∈ req.taskQueue, v = before.taskQueue
  workflowType : ∀ v ∈ req.workflowType, v = before.workflowType
  cronExpr : ∀ v ∈ req.cronExpr, before.cronExpr = some v
  input : ∀ v ∈ req.input, v = before.input
  maxCatchup : ∀ v ∈ req.maxCatchup, v = before.maxCatchup
  version : ∀ v ∈ req.version, v = before.version.getD ""
  fire : fireLeft cfg req es before = req.nextFireAt.or before.availableAt

/-- A repeated create asks for no other task queue, workflow type, input and version, and
where it leaves `enabled` or `max_catchup` unset the template has the default. -/
structure CreateHolds (cfg : Config) (req : CreateWorkflowScheduleRequest) (before : WorkflowRun) :
    Prop where
  taskQueue : req.taskQueue = before.taskQueue
  workflowType : req.workflowType = before.workflowType
  input : ∀ v ∈ req.input, v = before.input
  enabled : req.enabled = none → before.status = .scheduled
  maxCatchup : req.maxCatchup = none → before.maxCatchup = cfg.coordinator.defaultMaxCatchup
  version : ∀ v ∈ req.version, v = before.version.getD ""

/-- The condition of an edit. -/
def Holds (cfg : Config) (es : List Env) (before : WorkflowRun) : Request → Prop
  | .updateWorkflowSchedule req => UpdateHolds cfg req es before
  | .createWorkflowSchedule req => CreateHolds cfg req before
  | _ => True

/-! ## Calls that succeed -/

section Success
variable {α β : Type} {w w' : World} {es : List Env} {b : β}

theorem alone_ret_stmt {q : Stmt} {f : q.Ans → Rpc β}
    (h : store.alone es w (stmt q >>= f) = (w', .ret b)) :
    ∃ e es' a, es = e :: es' ∧ (store.exec e q w).1 = .ok a ∧
      store.alone es' (store.exec e q w).2 (f a) = (w', .ret b) := by
  cases es with
  | nil => cases (Prod.mk.inj h).2
  | cons e es =>
      change store.alone es _ (call (Prog.ofExcept (store.exec e q w).1) >>= f) = _ at h
      cases hres : (store.exec e q w).1 with
      | ok a =>
          rw [hres] at h
          exact ⟨e, es, a, rfl, hres, h⟩
      | error x =>
          rw [hres] at h
          change store.alone es _ (.fail _) = _ at h
          rw [store.alone_fail] at h
          cases (Prod.mk.inj h).2

theorem alone_ret_orFail {a : Option α} {status : Status} {f : α → Rpc β}
    (h : store.alone es w (orFail a status >>= f) = (w', .ret b)) :
    ∃ x, a = some x ∧ store.alone es w (f x) = (w', .ret b) := by
  cases a with
  | some x => exact ⟨x, rfl, h⟩
  | none =>
      change store.alone es w (.fail _) = _ at h
      rw [store.alone_fail] at h
      cases (Prod.mk.inj h).2

theorem alone_ret_ofExcept {a : Except Status α} {f : α → Rpc β}
    (h : store.alone es w (Prog.ofExcept a >>= f) = (w', .ret b)) :
    ∃ x, a = .ok x ∧ store.alone es w (f x) = (w', .ret b) := by
  cases a with
  | ok x => exact ⟨x, rfl, h⟩
  | error x =>
      change store.alone es w (.fail _) = _ at h
      rw [store.alone_fail] at h
      cases (Prod.mk.inj h).2

theorem alone_ret_requireNonEmpty {value field : String} {f : Unit → Rpc β}
    (h : store.alone es w (requireNonEmpty value field >>= f) = (w', .ret b)) :
    store.alone es w (f ()) = (w', .ret b) := by
  unfold requireNonEmpty at h
  split at h
  · change store.alone es w (.fail _) = _ at h
    rw [store.alone_fail] at h
    cases (Prod.mk.inj h).2
  · exact h

/-- The part of a handler that precedes the rest, when the whole succeeds. -/
theorem alone_ret_bind {p : Rpc α} {f : α → Rpc β} (h : store.alone es w (p >>= f) = (w', .ret b)) :
    ∃ es₁ es₂ w₁ a, es = es₁ ++ es₂ ∧ store.alone es₁ w p = (w₁, .ret a) ∧
      store.alone es₂ w₁ (f a) = (w', .ret b) := by
  induction p generalizing es w with
  | ret a => exact ⟨[], es, w, a, rfl, rfl, h⟩
  | fail x =>
      change store.alone es w (.fail x) = _ at h
      rw [store.alone_fail] at h
      cases (Prod.mk.inj h).2
  | call q k ih =>
      cases es with
      | nil => cases (Prod.mk.inj h).2
      | cons e es =>
          obtain ⟨es₁, es₂, w₁, a, rfl, hfirst, hrest⟩ := ih _ h
          exact ⟨e :: es₁, es₂, w₁, a, rfl, hfirst, hrest⟩

/-- What the statements of a program keep is kept where it stops. -/
theorem alone_uses (es : List Env) {allowed : Stmt → Prop} {I : World → Prop} {p : Rpc α}
    (hp : p.Uses allowed)
    (hI : ∀ e q w, allowed q → I w → I (store.exec e q w).2) (hw : I w) : I (store.alone es w p).1 := by
  induction p generalizing es w with
  | ret a => rwa [store.alone_ret]
  | fail x => rwa [store.alone_fail]
  | call q k ih =>
      cases es with
      | nil => exact hw
      | cons e es => exact ih _ es (hp.2 _) (hI e q w hp.1 hw)

end Success

/-! ## The template -/

section Template
variable {cfg : Config} {w w' : World} {runId : Uuid} {es : List Env} {before : WorkflowRun}

/-- The tables of runs and payloads say what is stored. -/
theorem stored_congr (hruns : w'.db.runs = w.db.runs) (hpayloads : w'.db.payloads = w.db.payloads)
    (runId : Uuid) : stored w' runId = stored w runId := by
  have hjoined : w'.db.joined = w.db.joined := by
    funext r
    simp only [Db.joined, hpayloads]
  simp only [stored, World.run, Db.run_congr hruns, hjoined]

/-- A run and its payload. -/
theorem stored_eq_some : stored w runId = some before ↔
    w.run runId = some before.toRunRow ∧
      ∃ payload, w.db.payloads.get? runId = some payload ∧ payload.input = before.input ∧
        payload.output = before.output := by
  constructor
  · intro h
    obtain ⟨r, hr, hj⟩ := Option.bind_eq_some_iff.mp h
    obtain ⟨payload, hpayload, rfl⟩ := Option.map_eq_some_iff.mp hj
    rw [Db.runId_of_run hr] at hpayload
    exact ⟨hr, payload, hpayload, rfl, rfl⟩
  · rintro ⟨hr, payload, hpayload, hin, hout⟩
    refine Option.bind_eq_some_iff.mpr ⟨_, hr, Option.map_eq_some_iff.mpr ⟨payload, ?_, ?_⟩⟩
    · rw [Db.runId_of_run hr]
      exact hpayload
    · cases before
      cases hin
      cases hout
      rfl

/-- A template that is overwritten. -/
theorem stored_update {e : Env} {workflow : RunRow} (hbefore : stored w runId = some before)
    (h : (store.exec e (.updateWorkflow runId workflow) w).1 = .ok ()) :
    stored (store.exec e (.updateWorkflow runId workflow) w).2 runId =
      some { before with toRunRow := workflow.overwrite before.toRunRow } := by
  obtain ⟨hr, payload, hpayload, hin, hout⟩ := stored_eq_some.mp hbefore
  refine stored_eq_some.mpr ⟨?_, payload, ?_, hin, hout⟩
  · rw [updateWorkflow_ok h, hr]
    rfl
  · have hpayloads : (store.exec e (.updateWorkflow runId workflow) w).2.db.payloads = w.db.payloads := by
      rw [store_exec_db]
      rcases Stmt.exec_cases e (.updateWorkflow runId workflow) w.db with hx | hx
      · rw [hx]
      · rw [hx]
        show (Kagzi.updateWorkflow runId workflow e w.db).2.payloads = _
        unfold Kagzi.updateWorkflow
        split
        next => exact Db.commitRuns_payloads ..
        next => rfl
    rw [hpayloads]
    exact hpayload

/-- A template that is looked up. -/
theorem exec_findById {e : Env} {ns : String} {current : WorkflowRun}
    (h : (store.exec e (.findById runId ns) w).1 = .ok (some current)) :
    stored w runId = some current ∧ (store.exec e (.findById runId ns) w).2.db = w.db := by
  have hok : ((Stmt.findById runId ns).exec e w.db).1 = .ok (some current) := h
  have hdb : (store.exec e (.findById runId ns) w).2.db = w.db := by
    rw [store_exec_db, Stmt.exec_ok hok]
    rfl
  rw [Stmt.exec_ok hok] at hok
  obtain ⟨r, hr, hj⟩ := Option.bind_eq_some_iff.mp (Except.ok.inj hok)
  exact ⟨Option.bind_eq_some_iff.mpr ⟨r, (Option.filter_eq_some_iff.mp hr).1, hj⟩, hdb⟩

/-- A template that is found. -/
theorem alone_ret_find {β : Type} {ns text : String} {f : WorkflowRun → Rpc β} {b : β}
    (h : store.alone es w (ScheduleService.find runId ns text >>= f) = (w', .ret b)) :
    ∃ e es' current w₁, es = e :: es' ∧ stored w runId = some current ∧ w₁.db = w.db ∧
      store.alone es' w₁ (f current) = (w', .ret b) := by
  rw [ScheduleService.find, Prog.bind_assoc] at h
  obtain ⟨e, es', found, rfl, hres, h⟩ := alone_ret_stmt h
  obtain ⟨current, rfl, h⟩ := alone_ret_orFail h
  obtain ⟨hstored, hdb⟩ := exec_findById hres
  exact ⟨e, es', current, _, rfl, hstored, hdb, h⟩

/-- A moment is read without the database. -/
theorem exec_utcNow {e : Env} {now : Int} (h : (store.exec e .utcNow w).1 = .ok now) :
    now = e.now ∧ (store.exec e .utcNow w).2.db = w.db := by
  have hok : ((Stmt.utcNow).exec e w.db).1 = .ok now := h
  have hdb : (store.exec e .utcNow w).2.db = w.db := by
    rw [store_exec_db, Stmt.exec_ok hok]
    rfl
  rw [Stmt.exec_ok hok] at hok
  exact ⟨(Except.ok.inj hok).symm, hdb⟩

/-- A template with an expression. -/
theorem cronOf_ok {current : WorkflowRun} {message : String} {cron : Recurrence}
    (h : ScheduleService.cronOf cfg current message = .ok cron) :
    ∃ expr, current.cronExpr = some expr ∧ ScheduleService.parseCronExpr cfg expr = .ok cron := by
  unfold ScheduleService.cronOf at h
  split at h
  next expr hexpr => exact ⟨expr, hexpr, h⟩
  next => cases h

/-- The occurrence that is written is the first after the moment. -/
theorem nextFireFromNow_of_next {expr : String} {cron : Recurrence} {now time : Int}
    (hcron : ScheduleService.parseCronExpr cfg expr = .ok cron)
    (h : ScheduleService.nextAfter cron now = .ok time) : nextFireFromNow cfg expr now = .ok time := by
  rw [nextFireFromNow, hcron]
  exact h

end Template

/-! ## Updates -/

section Updates
variable {cfg : Config} {w w' : World} {runId : Uuid} {es : List Env} {before : WorkflowRun}
  {req : UpdateWorkflowScheduleRequest}

/-- What an update leaves of the template. -/
def updated (cfg : Config) (req : UpdateWorkflowScheduleRequest) (es : List Env)
    (before : WorkflowRun) : WorkflowRun :=
  { before with
    status := (req.enabled.map enabledStatus).getD before.status
    availableAt := fireLeft cfg req es before }

/-- The write of an update, after as many statements as its check of the expression
makes. -/
theorem stored_setEnabled {resp : Response} {text : String} {es : List Env} (es₀ : List Env)
    (hbefore : stored w runId = some before)
    (hes : es₀.length = if req.cronExpr.isSome then 2 else 1)
    (h : store.alone es w (ScheduleService.setEnabled cfg runId before req.enabled >>= fun _ =>
      ScheduleService.find runId req.ns text >>= fun schedule => ScheduleService.answer cfg schedule) =
        (w', .ret resp)) :
    stored w' runId = some (updated cfg req (es₀ ++ es) before) := by
  have hfind : ∀ {es : List Env} {w₁ : World}, store.alone es w₁
      (ScheduleService.find runId req.ns text >>= fun schedule => ScheduleService.answer cfg schedule) =
        (w', .ret resp) → stored w' runId = stored w₁ runId := fun h => by
    obtain ⟨_, _, schedule, w₂, -, -, hdb, h⟩ := alone_ret_find h
    obtain ⟨_, -, h⟩ := alone_ret_ofExcept h
    rw [show store.alone _ w₂ (pure _ : Rpc Response) = (w₂, .ret _) from store.alone_ret _ w₂ _] at h
    obtain ⟨rfl, -⟩ := Prod.mk.inj h
    exact stored_congr (congrArg Db.runs hdb) (congrArg Db.payloads hdb) runId
  cases henabled : req.enabled with
  | none =>
      rw [henabled] at h
      rw [hfind h, hbefore, updated, fireLeft, henabled]
      rfl
  | some enabled =>
      rw [henabled] at h
      cases enabled with
      | false =>
          obtain ⟨e, es', ⟨⟩, rfl, hres, h⟩ := alone_ret_stmt h
          rw [hfind h, stored_update hbefore hres, updated, fireLeft, henabled]
          rfl
      | true =>
          simp only [ScheduleService.setEnabled, Prog.bind_assoc] at h
          obtain ⟨cron, hcron, h⟩ := alone_ret_ofExcept h
          obtain ⟨e, es', now, rfl, hnow, h⟩ := alone_ret_stmt h
          obtain ⟨rfl, hdb⟩ := exec_utcNow hnow
          obtain ⟨fire, hfire, h⟩ := alone_ret_ofExcept h
          obtain ⟨e', es'', ⟨⟩, rfl, hres, h⟩ := alone_ret_stmt h
          have hbefore' : stored (store.exec e .utcNow w).2 runId = some before := by
            rw [stored_congr (congrArg Db.runs hdb) (congrArg Db.payloads hdb), hbefore]
          have hleft : fireLeft cfg req (es₀ ++ e :: e' :: es'') before = some fire := by
            obtain ⟨expr, hexpr, hparse⟩ := cronOf_ok hcron
            rw [fireLeft, if_pos henabled, ← hes, List.getElem?_append_right (Nat.le_refl _),
              Nat.sub_self, hexpr]
            simp [nextFireFromNow_of_next hparse hfire, Except.toOption]
          rw [hfind h, stored_update hbefore' hres, updated, hleft, henabled]
          rfl

/-- An update that is answered with success. -/
theorem stored_updateWorkflowSchedule {resp : Response}
    (hedited : cfg.parseUuid req.scheduleId = some runId) (hbefore : stored w runId = some before)
    (h : store.alone es w (ScheduleService.updateWorkflowSchedule cfg req) = (w', .ret resp)) :
    stored w' runId = some (updated cfg req es before) := by
  unfold ScheduleService.updateWorkflowSchedule at h
  obtain ⟨_, huuid, h⟩ := alone_ret_orFail h
  obtain rfl := Option.some.inj (hedited.symm.trans huuid)
  have h := alone_ret_requireNonEmpty h
  obtain ⟨e₀, es, current, w₁, rfl, hcurrent, hdb, h⟩ := alone_ret_find h
  obtain rfl := Option.some.inj (hbefore.symm.trans hcurrent)
  have hbefore₁ : stored w₁ runId = some before := by
    rw [stored_congr (congrArg Db.runs hdb) (congrArg Db.payloads hdb), hbefore]
  cases hcron : req.cronExpr with
  | none =>
      rw [hcron] at h
      exact stored_setEnabled [e₀] hbefore₁ (by simp [hcron]) h
  | some expr =>
      rw [hcron] at h
      simp only [ScheduleService.checkCron, Prog.bind_assoc] at h
      obtain ⟨cron, -, h⟩ := alone_ret_ofExcept h
      obtain ⟨e₁, es, now, rfl, hnow, h⟩ := alone_ret_stmt h
      obtain ⟨rfl, hdb₁⟩ := exec_utcNow hnow
      obtain ⟨_, -, h⟩ := alone_ret_ofExcept h
      have hbefore₂ : stored (store.exec e₁ .utcNow w₁).2 runId = some before := by
        rw [stored_congr (congrArg Db.runs hdb₁) (congrArg Db.payloads hdb₁), hbefore₁]
      exact stored_setEnabled [e₀, e₁] hbefore₂ (by simp [hcron]) h

end Updates

/-! ## Repeated creates -/

section Creates
variable {cfg : Config} {w w' : World} {runId : Uuid} {es : List Env} {before : WorkflowRun}
  {req : CreateWorkflowScheduleRequest}

/-- A statement that changes no run. -/
def Spares (q : Stmt) : Prop := q.sparesRuns = true

theorem getOrCreate_spares (ns : String) : (NamespaceRepository.getOrCreate ns).Uses Spares := by
  have hreads : Spares (.findNamespace ns) := rfl
  have hclock : Spares .utcNow := rfl
  refine (uses_sql hreads).bind fun found => ?_
  cases found with
  | some _ => trivial
  | none => exact (uses_sql hclock).bind fun now => uses_sql rfl

/-- The namespace is looked up, or created, before the schedule. -/
theorem stored_getOrCreate {ns : String} {b : Unit}
    (h : store.alone es w (call (NamespaceRepository.getOrCreate ns)) = (w', .ret b)) :
    w'.db.runs = w.db.runs ∧ w'.db.payloads = w.db.payloads := by
  have hkept := alone_uses es (I := fun w' => w.db.SameRuns w'.db)
    (uses_call (getOrCreate_spares ns)) (fun e q w₁ hq hw => ?_) (.refl w.db)
  · rw [h] at hkept
    exact ⟨hkept.runs, hkept.payloads⟩
  · rw [store_exec_db]
    rcases Stmt.exec_cases e q w₁.db with hx | hx
    · rw [hx]
      exact hw
    · rw [hx]
      have hsame := Stmt.sql_sparesRuns hq e w₁.db
      exact ⟨hsame.runs.trans hw.runs, hsame.payloads.trans hw.payloads⟩

/-- The template of a schedule is looked up by its external id. -/
theorem exec_findActive {e : Env} {ns externalId : String} {found : Option Uuid}
    (h : (store.exec e (.findActiveByExternalId ns externalId) w).1 = .ok found) :
    found = (w.db.runs.rows.find? fun r => r.ns = ns && r.externalId = externalId &&
        !r.status.isTerminal).map RunRow.runId ∧
      (store.exec e (.findActiveByExternalId ns externalId) w).2.db = w.db := by
  have hok : ((Stmt.findActiveByExternalId ns externalId).exec e w.db).1 = .ok found := h
  have hdb : (store.exec e (.findActiveByExternalId ns externalId) w).2.db = w.db := by
    rw [store_exec_db, Stmt.exec_ok hok]
    rfl
  rw [Stmt.exec_ok hok] at hok
  exact ⟨(Except.ok.inj hok).symm, hdb⟩

/-- A create for a schedule that exists, and is answered with success. -/
theorem stored_createWorkflowSchedule {resp : Response}
    (hedited : edited cfg w (.createWorkflowSchedule req) = some runId)
    (hbefore : stored w runId = some before)
    (h : store.alone es w (ScheduleService.createWorkflowSchedule cfg req) = (w', .ret resp)) :
    ∃ e ∈ es, ∃ fire, nextFireFromNow cfg req.cronExpr e.now = .ok fire ∧
      stored w' runId = some (ScheduleService.recreated before req.cronExpr fire
        (req.maxCatchup.getD cfg.coordinator.defaultMaxCatchup) (req.enabled.getD true)) := by
  unfold ScheduleService.createWorkflowSchedule at h
  have h := alone_ret_requireNonEmpty <| alone_ret_requireNonEmpty <| alone_ret_requireNonEmpty <|
    alone_ret_requireNonEmpty <| alone_ret_requireNonEmpty h
  obtain ⟨es₀, es, w₁, _, rfl, hns, h⟩ := alone_ret_bind h
  obtain ⟨hruns₁, hpayloads₁⟩ := stored_getOrCreate hns
  obtain ⟨e, es, now, rfl, hnow, h⟩ := alone_ret_stmt h
  obtain ⟨rfl, hdb₂⟩ := exec_utcNow hnow
  obtain ⟨fire, hfire, h⟩ := alone_ret_ofExcept h
  obtain ⟨e', es, found, rfl, hfound, h⟩ := alone_ret_stmt h
  obtain ⟨rfl, hdb₃⟩ := exec_findActive hfound
  have hsome := hedited
  rw [edited, ← hruns₁, ← hdb₂] at hsome
  rw [hsome] at h
  obtain ⟨e₂, es, current, rfl, hcurrent, h⟩ := alone_ret_stmt h
  obtain ⟨existing, rfl, h⟩ := alone_ret_orFail h
  obtain ⟨hcurrent, hdb₄⟩ := exec_findById hcurrent
  have hruns := congrArg Db.runs (hdb₄.trans (hdb₃.trans hdb₂))
  have hpayloads := congrArg Db.payloads (hdb₄.trans (hdb₃.trans hdb₂))
  have hexisting : stored w runId = some existing := by
    rw [← stored_congr hruns₁ hpayloads₁]
    exact (stored_congr (congrArg Db.runs (hdb₃.trans hdb₂))
      (congrArg Db.payloads (hdb₃.trans hdb₂)) runId).symm.trans hcurrent
  obtain rfl := Option.some.inj (hbefore.symm.trans hexisting)
  obtain ⟨e₃, es, ⟨⟩, rfl, hres, h⟩ := alone_ret_stmt h
  obtain ⟨_, -, h⟩ := alone_ret_ofExcept h
  rw [show store.alone _ _ (pure _ : Rpc Response) = (_, .ret _) from store.alone_ret _ _ _] at h
  obtain ⟨rfl, -⟩ := Prod.mk.inj h
  have hbefore' := (stored_congr (hruns.trans hruns₁) (hpayloads.trans hpayloads₁) runId).trans hbefore
  refine ⟨e, by simp, fire, hfire, ?_⟩
  rw [stored_update hbefore' hres]
  rfl

end Creates

/-! ## When edits take effect -/

section Effect
variable {cfg : Config} {es : List Env} {before : WorkflowRun}

theorem getD_eq_iff {α : Type} {asked : Option α} {old : α} :
    old = asked.getD old ↔ ∀ v ∈ asked, v = old := by
  cases asked <;> simp [eq_comm]

/-- An update that writes the status and the fire time, and nothing else. -/
theorem takesEffect_updated {req : UpdateWorkflowScheduleRequest} {edit : Edit}
    (hedit : editOf (.updateWorkflowSchedule req) = some edit) :
    TakesEffect cfg edit es before (updated cfg req es before) ↔ UpdateHolds cfg req es before := by
  obtain rfl := Option.some.inj hedit
  constructor
  · intro h
    have hcron : before.cronExpr = req.cronExpr.or before.cronExpr := h.cronExpr
    refine ⟨getD_eq_iff.mp h.taskQueue, getD_eq_iff.mp h.workflowType, fun v hv => ?_,
      getD_eq_iff.mp h.input, getD_eq_iff.mp h.maxCatchup, getD_eq_iff.mp h.version, ?_⟩
    · rwa [Option.mem_def.mp hv, Option.some_or] at hcron
    · have hfire := h.fire
      simp only [FiresAsAsked, ← hcron, if_true] at hfire
      cases hnext : req.nextFireAt with
      | none =>
          rw [hnext] at hfire
          exact hfire trivial
      | some time =>
          rw [hnext] at hfire
          exact hfire
  · intro h
    have hcron : before.cronExpr = req.cronExpr.or before.cronExpr := by
      cases hreq : req.cronExpr with
      | none => rfl
      | some v => exact h.cronExpr v hreq
    refine ⟨getD_eq_iff.mpr h.taskQueue, getD_eq_iff.mpr h.workflowType, hcron,
      getD_eq_iff.mpr h.input, rfl, getD_eq_iff.mpr h.maxCatchup, getD_eq_iff.mpr h.version, ?_⟩
    have hfire : (updated cfg req es before).availableAt = req.nextFireAt.or before.availableAt := h.fire
    simp only [FiresAsAsked, ← hcron, if_true]
    cases hnext : req.nextFireAt with
    | none => exact fun _ => by rw [hfire, hnext, Option.none_or]
    | some time => rw [hfire, hnext, Option.some_or]

/-- A create that overwrites the expression, the fire time, the status and the limit. -/
theorem takesEffect_recreated {req : CreateWorkflowScheduleRequest} {edit : Edit} {e : Env}
    {fire : Int} (hedit : editOf (.createWorkflowSchedule req) = some edit) (he : e ∈ es)
    (hfire : nextFireFromNow cfg req.cronExpr e.now = .ok fire) :
    TakesEffect cfg edit es before (ScheduleService.recreated before req.cronExpr fire
        (req.maxCatchup.getD cfg.coordinator.defaultMaxCatchup) (req.enabled.getD true)) ↔
      CreateHolds cfg req before := by
  obtain rfl := Option.some.inj hedit
  constructor
  · intro h
    refine ⟨h.taskQueue.symm, h.workflowType.symm, getD_eq_iff.mp h.input, fun hreq => ?_,
      fun hreq => ?_, getD_eq_iff.mp h.version⟩
    · have henabled := h.enabled
      simp only [hreq] at henabled
      exact henabled.symm
    · have hmax := h.maxCatchup
      simp only [hreq] at hmax
      exact hmax.symm
  · intro h
    refine ⟨h.taskQueue.symm, h.workflowType.symm, rfl, getD_eq_iff.mpr h.input, ?_, ?_,
      getD_eq_iff.mpr h.version, ?_⟩
    · cases hreq : req.enabled with
      | none => exact (h.enabled hreq).symm
      | some enabled => rfl
    · cases hreq : req.maxCatchup with
      | none => exact (h.maxCatchup hreq).symm
      | some max => rfl
    · simp only [FiresAsAsked]
      split
      · exact nofun
      · exact ⟨_, rfl, e, he, fire, hfire, rfl⟩

end Effect

/-- An edit that is answered with success takes effect exactly if the fields that the
handler does not write have the requested values, and those that it writes on its own
account have the values that it writes. -/
theorem edits_take_effect_iff (cfg : Config) {p : ServerState} {req : Request} {edit : Edit}
    {runId : Uuid} {before : WorkflowRun} {es : List Env} {resp : Response}
    (hedit : editOf req = some edit)
    (hedited : edited cfg p.store req = some runId) (hbefore : stored p.store runId = some before)
    (hok : (afterCall cfg p req es).returned p.calls.length = some (req, resp)) :
    (∃ after, stored (afterCall cfg p req es).store runId = some after ∧
      TakesEffect cfg edit es before after) ↔ Holds cfg es before req := by
  obtain ⟨hstore, hcall⟩ := fireAll_arrival_alone (service cfg) p req es
  have hret := Option.some.inj ((Pool.calls_of_returned hok).symm.trans hcall)
  have halone : store.alone es p.store (handle cfg req) = ((afterCall cfg p req es).store, .ret resp) :=
    Prod.ext hstore.symm (congrArg Prod.snd hret).symm
  cases req with
  | updateWorkflowSchedule req =>
      rw [stored_updateWorkflowSchedule hedited hbefore halone]
      constructor
      · rintro ⟨_, ⟨⟩, heffect⟩
        exact (takesEffect_updated hedit).mp heffect
      · exact fun h => ⟨_, rfl, (takesEffect_updated hedit).mpr h⟩
  | createWorkflowSchedule req =>
      obtain ⟨e, he, fire, hfire, hstored⟩ := stored_createWorkflowSchedule hedited hbefore halone
      rw [hstored]
      constructor
      · rintro ⟨_, ⟨⟩, heffect⟩
        exact (takesEffect_recreated hedit he hfire).mp heffect
      · exact fun h => ⟨_, rfl, (takesEffect_recreated hedit he hfire).mpr h⟩
  | _ => cases hedit

/-! ## Runs -/

/-- A schedule was created in an empty database. -/
def scheduled : ServerState := fireAll (service .sample) (.init (.empty 0) []) (createTenSeconds none)

/-- Its template. -/
def template : WorkflowRun where
  toRunRow := tenSecondsRow 50
  input := []
  output := none

/-- The answer that shows the template. -/
def shown (enabled : Bool) : Response :=
  .schedule
    { scheduleId := "1"
      ns := "ns"
      taskQueue := "queue"
      workflowType := "type"
      cronExpr := "*/10 * * * * *"
      input := []
      enabled := enabled
      maxCatchup := 50
      nextFireAt := seconds 10
      lastFiredAt := none
      version := ""
      createdAt := 0 }

/-- The schedule is switched off. -/
def switchOff : Request :=
  .updateWorkflowSchedule ⟨"ns", "1", none, none, none, none, some false, none, none, none⟩

/-- The schedule is moved to another task queue. -/
def moveQueue : Request :=
  .updateWorkflowSchedule ⟨"ns", "1", some "other", none, none, none, none, none, none, none⟩

theorem edits_take_effect_iff_switched_off :
    ∃ after, stored (afterCall .sample scheduled switchOff (List.replicate 3 (.quiet 5 2))).store 1 =
        some after ∧
      TakesEffect .sample ⟨none, none, none, none, some false, none, none, true, none⟩
        (List.replicate 3 (.quiet 5 2)) template after := by
  have hok : (afterCall .sample scheduled switchOff (List.replicate 3 (.quiet 5 2))).returned
      scheduled.calls.length = some (switchOff, shown false) := by decide +kernel
  have hholds : Holds .sample (List.replicate 3 (.quiet 5 2)) template switchOff := by
    constructor <;> simp [fireLeft]
  exact (edits_take_effect_iff .sample rfl (by decide +kernel) (by decide +kernel) hok).mpr hholds

/-- An update of the task queue is answered with success and changes nothing. -/
theorem edit_is_lost : ¬ EveryEditTakesEffect .sample := by
  intro hevery
  have hsteps : Steps (service .sample) (.init (.empty 0) []) scheduled :=
    AllEnabled.steps (by decide +kernel)
  obtain ⟨after, hafter, heffect⟩ := hevery _ _ hsteps moveQueue
    ⟨some "other", none, none, none, none, none, none, true, none⟩ 1 template
    (List.replicate 2 (.quiet 5 2)) (shown true) rfl (by decide +kernel) (by decide +kernel)
    (by decide +kernel)
  have hkept : stored (afterCall .sample scheduled moveQueue (List.replicate 2 (.quiet 5 2))).store 1 =
      some template := by decide +kernel
  obtain rfl := Option.some.inj (hkept.symm.trans hafter)
  have hqueue : "queue" = "other" := heffect.taskQueue
  exact absurd hqueue (by decide)

end ScheduleEdits

end Kagzi
