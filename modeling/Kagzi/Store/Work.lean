import Kagzi.Store.RunChange

/-!
# What a worker is to do

The work of a run is what a worker gets of it: its queue, its type and its input.  It is
spread over two tables, and stays what it is as long as the run has its payload
(`Stmt.exec_work`).
-/

namespace Kagzi

/-! ## Work -/

/-- What a worker gets of a run, and where it asks for it. -/
structure Work where
  runId : Uuid
  ns : String
  taskQueue : String
  workflowType : String
  input : Bytes
deriving DecidableEq

/-- The work of a run with its payload. -/
def RunRow.work (r : RunRow) (input : Bytes) : Work :=
  ⟨r.runId, r.ns, r.taskQueue, r.workflowType, input⟩

/-- The work of a run that is to be created. -/
def CreateWorkflow.work (params : CreateWorkflow) : Work :=
  ⟨params.runId, params.ns, params.taskQueue, params.workflowType, params.input⟩

/-- The work of a run, if it has its payload. -/
def Db.work (db : Db) (runId : Uuid) : Option Work :=
  (db.run runId).bind fun r => (db.payload runId).map fun p => r.work p.input

/-- Each payload is that of a run. -/
def Db.Referred (db : Db) : Prop :=
  ∀ runId p, db.payload runId = some p → ∃ r, db.run runId = some r

section Lookups
variable {db : Db} {runId : Uuid} {work : Work}

theorem Db.work_eq_some :
    db.work runId = some work ↔
      ∃ r p, db.run runId = some r ∧ db.payload runId = some p ∧ r.work p.input = work := by
  unfold Db.work
  rw [Option.bind_eq_some_iff]
  simp only [Option.map_eq_some_iff]
  exact ⟨fun ⟨r, hr, p, hp, h⟩ => ⟨r, p, hr, hp, h⟩, fun ⟨r, p, hr, hp, h⟩ => ⟨r, hr, p, hp, h⟩⟩

theorem Db.runId_of_work (h : db.work runId = some work) : work.runId = runId := by
  obtain ⟨r, p, hr, -, rfl⟩ := Db.work_eq_some.mp h
  exact Db.runId_of_run hr

theorem Db.work_of_no_payload (h : db.payload runId = none) : db.work runId = none := by
  unfold Db.work
  rw [h]
  cases db.run runId <;> rfl

/-- A run that `find_by_id` finds is found with its work. -/
theorem work_of_findById {ns : String} {e : Env} {w : World} {t : WorkflowRun}
    (h : (store.exec e (.findById runId ns) w).1 = .ok (some t)) :
    w.db.work runId = some (t.toRunRow.work t.input) := by
  obtain ⟨hrun, -, -⟩ := run_of_findById h
  rw [store_exec_fst, Stmt.exec_ok h] at h
  have hfound : ((w.db.run runId).filter fun r => r.ns = ns).bind w.db.joined = some t :=
    Except.ok.inj h
  obtain ⟨r, hr, hjoined⟩ := Option.bind_eq_some_iff.mp hfound
  unfold Db.joined at hjoined
  obtain ⟨p, hp, rfl⟩ := Option.map_eq_some_iff.mp hjoined
  have hid : r.runId = runId := Db.runId_of_run (Option.filter_eq_some_iff.mp hr).1
  exact Db.work_eq_some.mpr ⟨r, p, hrun, hid ▸ hp, rfl⟩

end Lookups

/-! ## What a statement does to the work of a run -/

/-- What can become of the work of a run, in the supply `e` and the database `db`. -/
inductive WorkChange (e : Env) (db : Db) : Stmt → Option Work → Option Work → Prop where
  | same {q : Stmt} {o : Option Work} : WorkChange e db q o o
  | gone {q : Stmt} {work : Work} : WorkChange e db q (some work) none
  | created {params : CreateWorkflow} :
      (∃ runId, ((Stmt.createWorkflow params).exec e db).1 = .ok runId) →
      WorkChange e db (.createWorkflow params) none (some params.work)
  | instantiated {template : Uuid} {fireAt : Int} {work : Work} :
      ((Stmt.createScheduleInstance template fireAt).exec e db).1 = .ok (some e.fresh) →
      db.work template = some work →
      WorkChange e db (.createScheduleInstance template fireAt) none
        (some { work with runId := e.fresh })

section Changes
variable {e : Env} {db : Db} {q : Stmt} {runId : Uuid}

/-- The columns of a run that no statement writes. -/
theorem RunChange.work {r r' : RunRow} (h : RunChange e q (some r) (some r')) (input : Bytes) :
    r'.work input = r.work input := by
  cases h <;> rfl

theorem PayloadChange.input {p p' : PayloadRow} (h : PayloadChange e q (some p) (some p')) :
    p'.input = p.input := by
  cases h <;> rfl

/-- A run gets its payload when it is created, and then it is there with what was sent. -/
theorem work_of_createWorkflow {params : CreateWorkflow} {p : PayloadRow}
    (hold : db.payload runId = none)
    (hnew : ((Stmt.createWorkflow params).exec e db).2.payload runId = some p) :
    (∃ runId, ((Stmt.createWorkflow params).exec e db).1 = .ok runId) ∧
      ((Stmt.createWorkflow params).exec e db).2.work runId = some params.work := by
  cases hres : ((Stmt.createWorkflow params).exec e db).1 with
  | error x =>
      rw [createWorkflow_error hres, hold] at hnew
      cases hnew
  | ok id =>
      have hrow : ((Stmt.createWorkflow params).exec e db).2.run params.runId = _ :=
        created_of_createWorkflow (w := ⟨0, db, []⟩) hres
      have hc := Stmt.exec_payload e (.createWorkflow params) db runId
      rw [hold, hnew] at hc
      cases hc with
      | created =>
          obtain rfl : params.runId = runId := Db.runId_of_payload hnew
          exact ⟨⟨id, rfl⟩, Db.work_eq_some.mpr ⟨_, _, hrow, hnew, rfl⟩⟩

/-- An instance gets a payload only when its template has one. -/
theorem template_of_payload {template : Uuid} {fireAt : Int} {p : PayloadRow}
    (hold : db.payload runId = none)
    (hnew : ((Stmt.createScheduleInstance template fireAt).exec e db).2.payload runId = some p) :
    ∃ t tp, db.run template = some t ∧ db.payload template = some tp ∧
        p = ⟨e.fresh, tp.input, none⟩ := by
  rcases Stmt.exec_cases e (.createScheduleInstance template fireAt) db with hx | hx
  · rw [hx, hold] at hnew
    cases hnew
  · rw [hx] at hnew
    simp only [Stmt.sql, createScheduleInstance] at hnew
    split at hnew
    next =>
      rw [hold] at hnew
      cases hnew
    next t ht =>
      split at hnew
      next =>
        rw [hold] at hnew
        cases hnew
      next =>
        rcases db.insertRun_payload (t.instanceOf e.fresh fireAt e.now)
            ((db.payloads.get? template).map PayloadRow.input) runId with h | ⟨bytes, hbytes, -, h⟩
        · rw [h, hold] at hnew
          cases hnew
        · obtain ⟨tp, htp, rfl⟩ := Option.map_eq_some_iff.mp hbytes
          rw [h] at hnew
          exact ⟨t, tp, ht, htp, (Option.some.inj hnew).symm⟩

/-- An instance that gets a payload is there with the work of its template. -/
theorem work_of_createScheduleInstance {template : Uuid} {fireAt : Int} {p : PayloadRow}
    (hold : db.payload runId = none)
    (hnew : ((Stmt.createScheduleInstance template fireAt).exec e db).2.payload runId = some p) :
    ((Stmt.createScheduleInstance template fireAt).exec e db).1 = .ok (some e.fresh) ∧
      ∃ work, db.work template = some work ∧
        ((Stmt.createScheduleInstance template fireAt).exec e db).2.work runId =
          some { work with runId := e.fresh } := by
  obtain ⟨t, tp, ht, htp, rfl⟩ := template_of_payload hold hnew
  have hok : ((Stmt.createScheduleInstance template fireAt).exec e db).1 = .ok (some e.fresh) := by
    rcases createScheduleInstance_cases fireAt e ht
        (Option.isSome_iff_exists.mpr ⟨tp, htp⟩) with h | h
    · rw [h, hold] at hnew
      cases hnew
    · exact h
  obtain ⟨t', ht', hrow⟩ := instance_of_createScheduleInstance (w := ⟨0, db, []⟩) hok
  obtain rfl : t = t' := Option.some.inj (ht.symm.trans ht')
  have hid : e.fresh = runId := Db.runId_of_payload hnew
  subst hid
  refine ⟨hok, t.work tp.input, Db.work_eq_some.mpr ⟨t, tp, ht, htp, rfl⟩, ?_⟩
  exact Db.work_eq_some.mpr ⟨_, _, hrow, hnew, rfl⟩

/-- Whatever a statement does to the work of a run is in the list. -/
theorem Stmt.exec_work (e : Env) (q : Stmt) {db : Db} (h : db.Referred) (runId : Uuid) :
    WorkChange e db q (db.work runId) ((q.exec e db).2.work runId) := by
  have hrun := q.exec_run e db runId
  have hpayload := q.exec_payload e db runId
  cases hnew : (q.exec e db).2.payload runId with
  | none =>
      rw [Db.work_of_no_payload hnew]
      cases db.work runId with
      | none => exact .same
      | some work => exact .gone
  | some p' =>
      cases hold : db.payload runId with
      | none =>
          rw [Db.work_of_no_payload hold]
          rw [hold, hnew] at hpayload
          generalize hq : q = q' at hpayload
          cases hpayload with
          | created =>
              subst hq
              obtain ⟨hok, hwork⟩ := work_of_createWorkflow hold hnew
              rw [hwork]
              exact .created hok
          | instantiated =>
              subst hq
              obtain ⟨hok, work, hwork, hinstance⟩ := work_of_createScheduleInstance hold hnew
              rw [hinstance]
              exact .instantiated hok hwork
      | some p =>
          rw [hold, hnew] at hpayload
          obtain ⟨r, hr⟩ := h runId p hold
          rw [hr] at hrun
          rw [Db.work_eq_some.mpr ⟨r, p, hr, hold, rfl⟩]
          cases hr' : (q.exec e db).2.run runId with
          | none =>
              have hgone : (q.exec e db).2.work runId = none := by
                unfold Db.work
                rw [hr']
                rfl
              rw [hgone]
              exact .gone
          | some r' =>
              rw [hr'] at hrun
              rw [Db.work_eq_some.mpr ⟨r', p', hr', hnew, rfl⟩, hpayload.input, hrun.work]
              exact .same

/-- A run that is deleted takes its payload with it. -/
theorem payload_of_deleteRun {target : Uuid} {r : RunRow} (hold : db.run target = some r)
    (hnew : ((Stmt.deleteRun target).exec e db).2.run target = none) :
    ((Stmt.deleteRun target).exec e db).2.payload target = none := by
  rcases Stmt.exec_cases e (.deleteRun target) db with hx | hx
  · rw [hx, hold] at hnew
    cases hnew
  · rw [hx] at hnew ⊢
    simp only [Stmt.sql, deleteRun] at hnew ⊢
    split
    next hsteps =>
      rw [if_pos hsteps, hold] at hnew
      cases hnew
    next hsteps =>
      rw [if_neg hsteps] at hnew
      split
      next hu =>
        rw [hu, hold] at hnew
        cases hnew
      next runs _ =>
        show (db.payloads.delete fun p => decide (p.runId = target)).get? target = none
        rw [Relational.Table.get?_delete]
        refine Option.filter_eq_none_iff.mpr fun p hp => ?_
        simp [show p.runId = target from Db.runId_of_payload hp]

/-- A run goes together with its payload, if it still has one. -/
theorem Stmt.exec_referred (e : Env) (q : Stmt) {db : Db} (h : db.Referred) :
    (q.exec e db).2.Referred := by
  intro runId p' hnew
  cases hold : db.payload runId with
  | none =>
      have hpayload := q.exec_payload e db runId
      rw [hold, hnew] at hpayload
      generalize hq : q = q' at hpayload
      cases hpayload with
      | created =>
          subst hq
          obtain ⟨-, hwork⟩ := work_of_createWorkflow hold hnew
          obtain ⟨r, p, hr, -, -⟩ := Db.work_eq_some.mp hwork
          exact ⟨r, hr⟩
      | instantiated =>
          subst hq
          obtain ⟨-, work, -, hinstance⟩ := work_of_createScheduleInstance hold hnew
          obtain ⟨r, p, hr, -, -⟩ := Db.work_eq_some.mp hinstance
          exact ⟨r, hr⟩
  | some p =>
      obtain ⟨r, hr⟩ := h runId p hold
      have hrun := q.exec_run e db runId
      rw [hr] at hrun
      cases hr' : (q.exec e db).2.run runId with
      | some r' => exact ⟨r', rfl⟩
      | none =>
          rw [hr'] at hrun
          generalize hq : q = q' at hrun
          cases hrun with
          | deleted =>
              subst hq
              obtain rfl := Db.runId_of_run hr
              rw [payload_of_deleteRun hr hr'] at hnew
              cases hnew

/-- A poll hands out the work of the run that it takes. -/
theorem work_of_pollWorkflow {ns taskQueue workerId : String} {types : List String} {secs : Int}
    {item : ClaimedWorkflow}
    (h : ((Stmt.pollWorkflow ns taskQueue workerId types secs).exec e db).1 = .ok (some item)) :
    ∃ work, db.work item.runId = some work ∧ work.ns = ns ∧ work.taskQueue = taskQueue ∧
      (types = [] ∨ work.workflowType ∈ types) ∧ item.runId = work.runId ∧
      item.workflowType = work.workflowType ∧ item.input = work.input := by
  rw [Stmt.exec_ok h] at h
  simp only [Stmt.sql, pollWorkflow] at h
  split at h
  next => cases h
  next task htask =>
    obtain ⟨hmem, hav⟩ := List.mem_filter.mp (mem_of_earliest htask)
    simp only [RunRow.available, Bool.and_eq_true, Bool.or_eq_true, decide_eq_true_eq,
      List.isEmpty_iff, List.contains_iff_mem] at hav
    obtain ⟨⟨⟨⟨⟨hns, hqueue⟩, -⟩, -⟩, htypes⟩, -⟩ := hav
    split at h
    next => cases h
    next =>
      split at h
      next => cases h
      next p hp =>
        obtain rfl := Option.some.inj (Except.ok.inj h)
        exact ⟨task.work p.input, Db.work_eq_some.mpr ⟨task, p, Db.run_of_mem hmem, hp, rfl⟩, hns,
          hqueue,
          htypes, rfl, rfl, rfl⟩

end Changes

end Kagzi
