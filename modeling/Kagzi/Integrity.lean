import Kagzi.Server.Reach
import Kagzi.Store.NamespaceChange
import Kagzi.Store.StepChange
import Kagzi.Store.WorkerChange
import Kagzi.Payload

/-!
# The database stays intact

Of the references between the tables the schema declares some as foreign keys.  Others are
columns that only the code keeps in step: the namespace of an attempt is that of its run, and
the lock of a run is the text of the id of a worker, that of its own namespace and queue.  The
times of a row are written by different statements, in transactions that may have begun long
before: none is in the future, and a run is created before it is started.

`Intact` collects what holds of the tables in every state (`database_is_intact`).  A statement
keeps it that is `Sane`: a poll is made for a worker of the queue, no namespace is without a
name, and an edit of a schedule makes a template of the row.
-/

namespace Kagzi

open Atomic Relational

namespace Integrity

/-! ## What is intact -/

/-- A row has the time of its creation, and none of its times is in the future. -/
def Chronicle (now : Int) (created started finished : Option Int) : Prop :=
  created.isSome = true ∧ ∀ t ∈ created.toList ++ started.toList ++ finished.toList, t ≤ now

/-- The text is the id of a worker of the namespace and the queue. -/
def Names (cfg : Config) (w : World) (text ns taskQueue : String) : Prop :=
  ∃ id x, cfg.parseUuid text = some id ∧ w.worker id = some x ∧ x.ns = ns ∧ x.taskQueue = taskQueue

/-- The run of the attempt is there, and they are of one namespace. -/
def Placed (db : Db) (s : StepRow) : Prop := ∃ r, db.run s.runId = some r ∧ s.ns = r.ns

/-- The schedule that the run refers to is there. -/
def Fired (db : Db) (r : RunRow) : Prop :=
  ∀ template, r.scheduleId = some template → (db.run template).isSome = true

/-- The run was not started before it was created. -/
def InOrder (r : RunRow) : Prop :=
  ∀ c s, r.createdAt = some c → r.startedAt = some s → c ≤ s

/-- What holds of a run. -/
structure RunIntact (cfg : Config) (w : World) (r : RunRow) : Prop where
  housed : (w.db.namespaceRow r.ns).isSome = true
  fired : Fired w.db r
  held : ∀ text, r.lockedBy = some text → Names cfg w text r.ns r.taskQueue
  timely : Chronicle w.now r.createdAt r.startedAt r.finishedAt
  ordered : InOrder r
  unfinished : r.status.isClaimable = true → r.finishedAt = none

/-- What holds of a worker. -/
structure WorkerIntact (w : World) (x : WorkerRow) : Prop where
  housed : (w.db.namespaceRow x.ns).isSome = true
  registered : x.registeredAt ≤ x.lastHeartbeatAt
  beaten : x.lastHeartbeatAt ≤ w.now
  left : ∀ t, x.deregisteredAt = some t → x.registeredAt ≤ t ∧ t ≤ w.now

/-- What holds of an attempt. -/
structure StepIntact (w : World) (s : StepRow) : Prop where
  placed : Placed w.db s
  timely : Chronicle w.now s.createdAt s.startedAt s.finishedAt

/-- The tables are intact. -/
structure Intact (cfg : Config) (w : World) : Prop where
  named : ∀ name r, w.db.namespaceRow name = some r → name ≠ ""
  referred : w.db.Referred
  runs : ∀ runId r, w.run runId = some r → RunIntact cfg w r
  steps : ∀ s ∈ w.db.steps.rows, StepIntact w s
  workers : ∀ id x, w.worker id = some x → WorkerIntact w x

/-- What is to be true of a statement. -/
def Sane (cfg : Config) : Condition Stmt Stmt.Result World Env := fun _ _ q m =>
  match q with
  | .upsertNamespace name _ => name ≠ ""
  | .pollWorkflow ns taskQueue text _ _ => Names cfg m.store text ns taskQueue
  | .updateWorkflow _ workflow => workflow.status.isScheduleTemplate = true
  | _ => True

/-! ## Times -/

section Chronicles
variable {now now' t : Int} {created started finished : Option Int}

theorem Chronicle.later (h : Chronicle now created started finished) (hle : now ≤ now') :
    Chronicle now' created started finished :=
  ⟨h.1, fun t ht => Int.le_trans (h.2 t ht) hle⟩

theorem Chronicle.new (ht : t ≤ now) (started finished : Bool) :
    Chronicle now (some t) (if started then some t else none)
        (if finished then some t else none) := by
  refine ⟨rfl, fun x hx => ?_⟩
  cases started <;> cases finished <;> simp at hx <;> omega

/-- A row is finished, for the first time or once more. -/
theorem Chronicle.finish (h : Chronicle now created started finished) (ht : t ≤ now) :
    Chronicle now created started (some t) := by
  refine ⟨h.1, fun x hx => ?_⟩
  rcases List.mem_append.mp hx with hx | hx
  · exact h.2 x (List.mem_append_left _ hx)
  · obtain rfl := List.mem_singleton.mp hx
    exact ht

/-- A row is started, unless it was started before. -/
theorem Chronicle.start (h : Chronicle now created started finished) (ht : t ≤ now) :
    Chronicle now created (some (started.getD t)) finished := by
  cases started with
  | some s => exact h
  | none =>
      refine ⟨h.1, fun x hx => ?_⟩
      simp only [List.mem_append, Option.getD_none, Option.mem_toList, Option.some.injEq] at hx
      rcases hx with (hx | rfl) | hx
      · exact h.2 x (by simp [hx])
      · exact ht
      · exact h.2 x (by simp [hx])

end Chronicles

/-! ## References to runs -/

section References
variable {e : Env} {q : Stmt} {db : Db} {runId template : Uuid} {r r' : RunRow}

/-- A run that is inserted refers to a namespace, and perhaps to a run, that are there. -/
theorem refers_of_createWorkflow {params : CreateWorkflow} (hold : db.run runId = none)
    (hnew : (createWorkflow params e db).2.run runId = some r) :
    db.refersWell (RunRow.created params e.began) = true := by
  by_contra hrefers
  unfold createWorkflow at hnew
  simp only [hrefers, if_false] at hnew
  rw [hold] at hnew
  cases hnew

theorem template_of_createScheduleInstance {fireAt : Int} (hold : db.run runId = none)
    (hnew : (createScheduleInstance template fireAt e db).2.run runId = some r) :
    ∃ t, db.run template = some t ∧ r = t.instanceOf e.fresh fireAt e.now := by
  unfold createScheduleInstance at hnew
  split at hnew
  next =>
    rw [hold] at hnew
    cases hnew
  next t ht =>
    split at hnew
    next =>
      rw [hold] at hnew
      cases hnew
    next =>
      rcases db.insertRun_run (t.instanceOf e.fresh fireAt e.now)
          ((db.payloads.get? template).map PayloadRow.input) runId with h | ⟨-, -, h⟩
      · rw [h, hold] at hnew
        cases hnew
      · rw [h] at hnew
        exact ⟨t, ht, (Option.some.inj hnew).symm⟩

theorem updateWorkflow_refers (target : Uuid) (workflow : RunRow) (e : Env) (db : Db) :
    (updateWorkflow target workflow e db).2 = db ∨
      ∀ template, workflow.scheduleId = some template → (db.run template).isSome = true := by
  unfold updateWorkflow
  split
  next h =>
    refine .inr fun template htemplate => ?_
    rw [htemplate] at h
    exact h
  next => exact .inl rfl

/-- A deletion that gets through finds no attempt of the run, and leaves no reference to it. -/
theorem deleteRun_refers (target : Uuid) (e : Env) (db : Db) :
    (deleteRun target e db).2 = db ∨
      (∀ r, db.run target = some r → ∀ s ∈ db.steps.rows, s.runId ≠ target) ∧
        ∀ runId r, (deleteRun target e db).2.run runId = some r → r.scheduleId ≠ some target := by
  unfold deleteRun
  split
  next => exact .inl rfl
  next hsteps =>
    split
    next => exact .inl rfl
    next runs hu =>
      refine .inr ⟨fun r hr s hs hid => hsteps ?_, fun runId r hr => ?_⟩
      · rw [hr]
        exact Bool.and_eq_true_iff.mpr ⟨rfl, List.any_eq_true.mpr ⟨s, hs, decide_eq_true hid⟩⟩
      · have hget : runs.get? runId =
          ((db.runs.delete fun r => decide (r.runId = target)).get? runId).map
            (amend (fun r => decide (r.scheduleId = some target)) RunRow.orphan) :=
          Table.get?_update? (f := RunRow.orphan) (fun _ => rfl) hu runId
        rw [show runs.get? runId = some r from hr] at hget
        obtain ⟨x, -, rfl⟩ := Option.map_eq_some_iff.mp hget.symm
        by_cases hx : x.scheduleId = some target
        · simp [hx, RunRow.orphan]
        · simp [hx]

/-- Only a deletion takes a run away. -/
theorem run_isSome_of_exec (hq : q ≠ .deleteRun runId) (h : (db.run runId).isSome = true) :
    ((q.exec e db).2.run runId).isSome = true := by
  obtain ⟨r, hr⟩ := Option.isSome_iff_exists.mp h
  have hc := q.exec_run e db runId
  rw [hr] at hc
  generalize (q.exec e db).2.run runId = new at hc
  cases hc with
  | deleted => exact absurd (congrArg Stmt.deleteRun (Db.runId_of_run hr)) hq
  | _ => rfl

/-- What a run refers to after a statement is there after it. -/
theorem fired_of_exec (h : ∀ runId r, db.run runId = some r → Fired db r)
    (hnew : (q.exec e db).2.run runId = some r') : Fired (q.exec e db).2 r' := by
  intro template htemplate
  -- what was there, and is not what a deletion is about, is still there
  have hkept : (db.run template).isSome = true → q ≠ .deleteRun template →
      ((q.exec e db).2.run template).isSome = true := fun h hq => run_isSome_of_exec hq h
  have hdeleted : q ≠ .deleteRun template ∨ (q.exec e db).2 = db := by
    by_cases hq : q = .deleteRun template
    · subst hq
      rcases Stmt.exec_cases e (.deleteRun template) db with hx | hx
      · exact .inr (congrArg Prod.snd hx)
      · rcases deleteRun_refers template e db with hdb | ⟨-, hnone⟩
        · exact .inr ((congrArg Prod.snd hx).trans hdb)
        · rw [hx] at hnew
          exact absurd htemplate (hnone runId r' hnew)
    · exact .inl hq
  rcases hdeleted with hq | hsame
  · refine hkept ?_ hq
    have hc := q.exec_run e db runId
    rw [hnew] at hc
    cases hold : db.run runId with
    | none =>
        rw [hold] at hc
        rcases q.exec_cases e db with hx | hx
        · rw [hx, hold] at hnew
          cases hnew
        · rw [hx] at hnew
          cases hc with
          | @created params =>
              have hrefers := refers_of_createWorkflow hold hnew
              simp only [Db.refersWell, Bool.and_eq_true] at hrefers
              rw [htemplate] at hrefers
              exact hrefers.2
          | @instantiated t fireAt =>
              obtain ⟨t', ht', -⟩ := template_of_createScheduleInstance hold hnew
              obtain rfl : t.runId = template := Option.some.inj htemplate
              rw [ht']
              rfl
    | some r =>
        rw [hold] at hc
        have hr := h runId r hold
        cases hc with
        | @overwritten workflow =>
            rcases Stmt.exec_cases e (.updateWorkflow r.runId workflow) db with hx | hx
            · rw [hx, hold] at hnew
              exact hr template (Option.some.inj hnew ▸ htemplate)
            · rcases updateWorkflow_refers r.runId workflow e db with hdb | hrefers
              · rw [hx] at hnew
                rw [show ((Stmt.updateWorkflow r.runId workflow).sql e db).2 = db from hdb,
                  hold] at hnew
                exact hr template (Option.some.inj hnew ▸ htemplate)
              · exact hrefers template htemplate
        | orphaned => cases htemplate
        | _ => exact hr template htemplate
  · rw [hsame] at hnew ⊢
    exact h runId r' hnew template htemplate

end References

/-! ## One statement -/

section Statements
variable {cfg : Config} {i : Nat} {e : Env} {q : Stmt} {m : Now}

/-- A worker stays, and stays where it is. -/
theorem Names.exec {w : World} {text ns taskQueue : String} (h : Names cfg w text ns taskQueue) :
    Names cfg (store.exec e q w).2 text ns taskQueue := by
  obtain ⟨id, x, hid, hx, hns, hqueue⟩ := h
  have hc := q.exec_worker e w.db id
  rw [show w.db.worker id = some x from hx] at hc
  show ∃ id x, cfg.parseUuid text = some id ∧ (q.exec e w.db).2.worker id = some x ∧ _
  generalize hnew : (q.exec e w.db).2.worker id = new at hc
  cases hc with
  | _ => exact ⟨id, _, hid, hnew, hns, hqueue⟩

/-- A run that nobody holds. -/
theorem RunIntact.free {w : World} {r : RunRow} (housed : (w.db.namespaceRow r.ns).isSome = true)
    (fired : Fired w.db r) (hlock : r.lockedBy = none)
    (timely : Chronicle w.now r.createdAt r.startedAt r.finishedAt) (ordered : InOrder r)
    (unfinished : r.status.isClaimable = true → r.finishedAt = none) : RunIntact cfg w r := by
  refine ⟨housed, fired, fun text htext => ?_, timely, ordered, unfinished⟩
  rw [hlock] at htext
  cases htext

/-- A run that is over. -/
theorem RunIntact.over {w : World} {r : RunRow} (housed : (w.db.namespaceRow r.ns).isSome = true)
    (fired : Fired w.db r) (hlock : r.lockedBy = none)
    (timely : Chronicle w.now r.createdAt r.startedAt r.finishedAt) (ordered : InOrder r)
    (hs : r.status.isClaimable = false) : RunIntact cfg w r := by
  refine .free housed fired hlock timely ordered fun hclaimable => ?_
  rw [hs] at hclaimable
  cases hclaimable

/-- A run that is new is intact. -/
theorem runIntact_of_insert (h : Intact cfg m.store) (hbegan : e.began ≤ e.now) {runId : Uuid}
    {r' : RunRow} (hold : m.store.db.run runId = none)
    (hnew : (q.exec e m.store.db).2.run runId = some r') :
    RunIntact cfg (store.exec e q m.store).2 r' := by
  have hfired : Fired (q.exec e m.store.db).2 r' :=
    fired_of_exec (fun runId r hr => (h.runs runId r hr).fired) hnew
  have hhouse : ∀ {ns : String}, (m.store.db.namespaceRow ns).isSome = true →
      ((q.exec e m.store.db).2.namespaceRow ns).isSome = true := Stmt.exec_namespace_isSome
  have hc := q.exec_run e m.store.db runId
  rw [hnew, hold] at hc
  have hsql : ((q.sql e m.store.db).2).run runId = some r' := by
    rcases q.exec_cases e m.store.db with hx | hx
    · rw [hx, hold] at hnew
      cases hnew
    · rwa [hx] at hnew
  cases hc with
  | @created params =>
      have hrefers := refers_of_createWorkflow hold hsql
      simp only [Db.refersWell, Bool.and_eq_true] at hrefers
      exact .free (hhouse hrefers.1) hfired rfl (.new hbegan false false) (fun _ _ _ h => by cases h)
        fun _ => rfl
  | @instantiated t fireAt =>
      obtain ⟨t', ht', heq⟩ := template_of_createScheduleInstance hold hsql
      have hns : (t.instanceOf e.fresh fireAt e.now).ns =
          (t'.instanceOf e.fresh fireAt e.now).ns :=
        congrArg RunRow.ns heq
      exact .free (hhouse (hns.symm ▸ (h.runs _ t' ht').housed)) hfired rfl
        (.new (Int.le_refl _) false false) (fun _ _ _ h => by cases h) fun _ => rfl

/-- A run that was there is as intact as before. -/
theorem runIntact_of_change (h : Intact cfg m.store) (hnow : m.store.now ≤ e.now)
    (hbegan : e.began ≤ e.now) (hq : Sane cfg i e q m) {runId : Uuid} {r r' : RunRow}
    (hold : m.store.db.run runId = some r)
    (hnew : (q.exec e m.store.db).2.run runId = some r') :
    RunIntact cfg (store.exec e q m.store).2 r' := by
  have hfired : Fired (q.exec e m.store.db).2 r' :=
    fired_of_exec (fun runId r hr => (h.runs runId r hr).fired) hnew
  have hhouse : ∀ {ns : String}, (m.store.db.namespaceRow ns).isSome = true →
      ((q.exec e m.store.db).2.namespaceRow ns).isSome = true := Stmt.exec_namespace_isSome
  have hc := q.exec_run e m.store.db runId
  rw [hnew, hold] at hc
  have hr := h.runs runId r hold
  have htimely := hr.timely.later hnow
  have hheld : ∀ text, r.lockedBy = some text →
      Names cfg (store.exec e q m.store).2 text r.ns r.taskQueue := fun text htext =>
        (hr.held text htext).exec
  cases hc with
  | same => exact ⟨hhouse hr.housed, hfired, hheld, htimely, hr.ordered, hr.unfinished⟩
  | @claimed ns taskQueue text types secs _ hav =>
      simp only [RunRow.available, Bool.and_eq_true, decide_eq_true_eq] at hav
      obtain ⟨⟨⟨⟨⟨hns, hqueue⟩, hs⟩, -⟩, -⟩, -⟩ := hav
      refine ⟨hhouse hr.housed, hfired, fun text' htext => ?_, ?_, ?_,
        fun _ => hr.unfinished hs⟩
      · obtain rfl := Option.some.inj htext
        have hsane : Names cfg m.store text ns taskQueue := hq
        rw [← hns, ← hqueue] at hsane
        exact hsane.exec
      · exact htimely.start (Int.le_refl _)
      -- the claim is the first, or the run was started by an earlier one
      · intro c s hcreated hstarted
        obtain rfl := Option.some.inj hstarted
        cases hfirst : r.startedAt with
        | none => exact htimely.2 c (by simp [show r.createdAt = some c from hcreated])
        | some s => exact hr.ordered c s hcreated hfirst
  | extended _ hs =>
      exact ⟨hhouse hr.housed, hfired, hheld, htimely, hr.ordered,
        fun _ => hr.unfinished (by rw [hs]; rfl)⟩
  | cancelledRunning _ => exact .over (hhouse hr.housed) hfired rfl (htimely.finish hbegan) hr.ordered rfl
  | cancelledWaiting _ => exact .over (hhouse hr.housed) hfired rfl (htimely.finish hbegan) hr.ordered rfl
  | completed _ => exact .over (hhouse hr.housed) hfired rfl (htimely.finish hbegan) hr.ordered rfl
  | failed _ => exact .over (hhouse hr.housed) hfired rfl (htimely.finish hbegan) hr.ordered rfl
  | slept hs =>
      exact .free (hhouse hr.housed) hfired rfl htimely hr.ordered fun _ =>
        hr.unfinished (by rw [hs]; rfl)
  | retried hs =>
      exact .free (hhouse hr.housed) hfired rfl htimely hr.ordered fun _ =>
        hr.unfinished (by rw [hs]; rfl)
  | nextFired => exact ⟨hhouse hr.housed, hfired, hheld, htimely, hr.ordered, hr.unfinished⟩
  | @overwritten workflow =>
      refine ⟨hhouse hr.housed, hfired, hheld, htimely, hr.ordered, fun hs => ?_⟩
      have hsane : workflow.status.isScheduleTemplate = true := hq
      exact absurd hs (by simp [RunRow.overwrite, WorkflowStatus.template_not_claimable hsane])
  | orphaned => exact ⟨hhouse hr.housed, hfired, hheld, htimely, hr.ordered, hr.unfinished⟩

theorem runIntact_of_exec (h : Intact cfg m.store) (hnow : m.store.now ≤ e.now)
    (hbegan : e.began ≤ e.now) (hq : Sane cfg i e q m) {runId : Uuid} {r' : RunRow}
    (hnew : (q.exec e m.store.db).2.run runId = some r') :
    RunIntact cfg (store.exec e q m.store).2 r' := by
  cases hold : m.store.db.run runId with
  | none => exact runIntact_of_insert h hbegan hold hnew
  | some r => exact runIntact_of_change h hnow hbegan hq hold hnew

theorem housed_of_registerWorker {db : Db} {params : RegisterWorkerParams} {id : Uuid}
    {x : WorkerRow} (hold : db.worker id = none)
    (hnew : (registerWorker params e db).2.worker id = some x) :
    (db.namespaceRow params.ns).isSome = true := by
  by_contra hhoused
  unfold registerWorker at hnew
  split at hnew
  next r hfind =>
    unfold Db.commitWorkers at hnew
    split at hnew
    next workers hu =>
      have hget := Table.get?_update? (f := WorkerRow.reregister params e.now) (fun _ => rfl) hu id
      rw [show workers.get? id = some x from hnew, show db.workers.get? id = none from hold] at hget
      cases hget
    next =>
      rw [hold] at hnew
      cases hnew
  next =>
    rw [if_neg (show ¬ (db.namespaces.get? params.ns).isSome = true from hhoused), hold] at hnew
    cases hnew

theorem workerIntact_of_exec (h : Intact cfg m.store) (hnow : m.store.now ≤ e.now) {id : Uuid}
    {x' : WorkerRow} (hnew : (q.exec e m.store.db).2.worker id = some x') :
    WorkerIntact (store.exec e q m.store).2 x' := by
  have hhouse : ∀ {ns : String}, (m.store.db.namespaceRow ns).isSome = true →
      ((q.exec e m.store.db).2.namespaceRow ns).isSome = true := Stmt.exec_namespace_isSome
  have hc := q.exec_worker e m.store.db id
  rw [hnew] at hc
  cases hold : m.store.db.worker id with
  | none =>
      rw [hold] at hc
      cases hc with
      | @registered params =>
          refine ⟨hhouse ?_, Int.le_refl _, Int.le_refl _, nofun⟩
          rcases Stmt.exec_cases e (.registerWorker params) m.store.db with hx | hx
          · rw [hx, hold] at hnew
            cases hnew
          · rw [hx] at hnew
            exact housed_of_registerWorker hold hnew
  | some x =>
      rw [hold] at hc
      obtain ⟨hhoused, hreg, hbeat, hleft⟩ := h.workers id x hold
      have hlate : x.lastHeartbeatAt ≤ e.now := Int.le_trans hbeat hnow
      have hearly : ∀ t, x.deregisteredAt = some t → x.registeredAt ≤ t ∧ t ≤ e.now :=
        fun t ht => ⟨(hleft t ht).1, Int.le_trans (hleft t ht).2 hnow⟩
      cases hc with
      | same => exact ⟨hhouse hhoused, hreg, hlate, hearly⟩
      | reregistered _ => exact ⟨hhouse hhoused, Int.le_trans hreg hlate, Int.le_refl _, nofun⟩
      | beat _ => exact ⟨hhouse hhoused, Int.le_trans hreg hlate, Int.le_refl _, hearly⟩
      | drained => exact ⟨hhouse hhoused, hreg, hlate, hearly⟩
      | deregistered =>
          exact ⟨hhouse hhoused, hreg, hlate, fun t ht =>
            Option.some.inj ht ▸ ⟨Int.le_trans hreg hlate, Int.le_refl _⟩⟩
      | stale _ _ =>
          exact ⟨hhouse hhoused, hreg, hlate, fun t ht =>
            Option.some.inj ht ▸ ⟨Int.le_trans hreg hlate, Int.le_refl _⟩⟩

/-- An attempt that is inserted is placed with its run. -/
theorem placed_of_insertStep {db db' db'' : Db} {step : NewStep} {now : Int}
    (hi : db'.insertStep step now = .ok db'') (hrun : ∀ id, db'.run id = db.run id)
    (hold : ∀ s ∈ db'.steps.rows, Placed db s) {s : StepRow} (hs : s ∈ db''.steps.rows) :
    Placed db s := by
  unfold Db.insertStep at hi
  split at hi
  next => cases hi
  next r hr =>
    split at hi
    next => cases hi
    next steps hins =>
      obtain rfl := Except.ok.inj hi
      rw [show steps.rows = _ from (Table.insert?_eq_some hins).1] at hs
      rcases List.mem_append.mp hs with hs | hs
      · exact hold s hs
      · obtain rfl := List.mem_singleton.mp hs
        exact ⟨r, (hrun _).symm.trans hr, rfl⟩

/-- An update of attempts leaves them where they are. -/
theorem placed_of_update {db : Db} {p : StepRow → Bool} {f : StepRow → StepRow}
    {steps : Table StepRow} (hold : ∀ s ∈ db.steps.rows, Placed db s)
    (hu : db.steps.update? p f = some steps) (hf : ∀ s, (f s).runId = s.runId ∧ (f s).ns = s.ns)
    {s : StepRow} (hs : s ∈ steps.rows) : Placed db s := by
  rw [Table.update?_rows hu] at hs
  obtain ⟨x, hx, rfl⟩ := List.mem_map.mp hs
  obtain ⟨r, hr, hns⟩ := hold x hx
  cases hp : p x with
  | true =>
      rw [amend_of_true hp]
      exact ⟨r, (hf x).1 ▸ hr, (hf x).2.trans hns⟩
  | false =>
      rw [amend_of_false hp]
      exact ⟨r, hr, hns⟩

theorem placed_of_commitSteps {α : Type} {db : Db} {p : StepRow → Bool} {f : StepRow → StepRow}
    {a : α} (hold : ∀ s ∈ db.steps.rows, Placed db s) {s : StepRow}
    (hs : s ∈ (db.commitSteps p f a).2.steps.rows)
    (hf : ∀ s, (f s).runId = s.runId ∧ (f s).ns = s.ns) : Placed db s := by
  unfold Db.commitSteps at hs
  split at hs
  next hu => exact placed_of_update hold hu hf hs
  next => exact hold s hs

/-- The attempts after a statement are placed with the runs from before it. -/
theorem placed_of_sql {db : Db} (hold : ∀ s ∈ db.steps.rows, Placed db s) {s : StepRow}
    (hs : s ∈ (q.sql e db).2.steps.rows) : Placed db s := by
  cases hspare : q.sparesSteps with
  | true =>
      rw [q.sql_sparesSteps hspare e db] at hs
      exact hold s hs
  | false =>
  cases q with
  | supersede step =>
      simp only [Stmt.sql, Kagzi.supersede] at hs
      split at hs
      next =>
        split at hs
        next => exact hold s hs
        next steps hu =>
          split at hs
          next hi =>
            exact placed_of_insertStep hi (fun _ => rfl)
              (fun _ h => placed_of_update hold hu (fun _ => ⟨rfl, rfl⟩) h) hs
          next => exact hold s hs
      next => exact hold s hs
  | insertStep step =>
      simp only [Stmt.sql, Kagzi.insertStep] at hs
      split at hs
      next hi => exact placed_of_insertStep hi (fun _ => rfl) hold hs
      next => exact hold s hs
  | completeRunningStep _ _ _ => exact placed_of_commitSteps hold hs fun _ => ⟨rfl, rfl⟩
  | failRunningStep _ _ _ => exact placed_of_commitSteps hold hs fun _ => ⟨rfl, rfl⟩
  | failLatestStep _ _ _ => exact placed_of_commitSteps hold hs fun _ => ⟨rfl, rfl⟩
  | completePendingSleeps _ => exact placed_of_commitSteps hold hs fun _ => ⟨rfl, rfl⟩
  | recordLatestStep _ _ _ _ _ => exact placed_of_commitSteps hold hs fun _ => ⟨rfl, rfl⟩
  | _ => cases hspare

/-- An attempt keeps its run and its namespace, and a run with attempts is not deleted. -/
theorem placed_of_exec {db : Db} (hold : ∀ s ∈ db.steps.rows, Placed db s) {s : StepRow}
    (hs : s ∈ (q.exec e db).2.steps.rows) : Placed (q.exec e db).2 s := by
  have hplaced : Placed db s := by
    rcases q.exec_cases e db with hx | hx
    · rw [hx] at hs
      exact hold s hs
    · rw [hx] at hs
      exact placed_of_sql hold hs
  obtain ⟨r, hr, hns⟩ := hplaced
  have hc := q.exec_run e db s.runId
  rw [hr] at hc
  generalize hnew : (q.exec e db).2.run s.runId = new at hc
  cases hc with
  | deleted =>
      rcases Stmt.exec_cases e (.deleteRun r.runId) db with hx | hx
      · rw [hx, hr] at hnew
        cases hnew
      · rw [hx] at hnew hs
        rcases deleteRun_refers r.runId e db with hdb | ⟨hnone, -⟩
        · rw [show ((Stmt.deleteRun r.runId).sql e db).2 = db from hdb, hr] at hnew
          cases hnew
        · have hid : r.runId = s.runId := Db.runId_of_run hr
          rw [Stmt.sql_sparesSteps (q := .deleteRun r.runId) rfl e db] at hs
          exact absurd hid.symm (hnone r (hid ▸ hr) s hs)
  | _ => exact ⟨_, hnew, hns⟩

/-- An attempt is not finished in the future. -/
theorem chronicle_of_stepUpdate (hbegan : e.began ≤ e.now) {p : StepRow → Bool} {f : StepRow → StepRow}
    (hq : q.stepUpdate e = some (p, f)) {s : StepRow}
    (h : Chronicle e.now s.createdAt s.startedAt s.finishedAt) :
    Chronicle e.now (f s).createdAt (f s).startedAt (f s).finishedAt := by
  cases q with
  | supersede _ => cases hq; exact h
  | completeRunningStep _ _ _ => cases hq; exact h.finish hbegan
  | failRunningStep _ _ _ => cases hq; exact h.finish hbegan
  | failLatestStep _ _ _ => cases hq; exact h.finish (Int.le_refl _)
  | completePendingSleeps _ => cases hq; exact h.finish (Int.le_refl _)
  | recordLatestStep _ _ _ _ _ => cases hq; exact (h.start hbegan).finish hbegan
  | _ => cases hq

theorem stepIntact_of_exec (h : Intact cfg m.store) (hnow : m.store.now ≤ e.now)
    (hbegan : e.began ≤ e.now) {s : StepRow} (hs : s ∈ (q.exec e m.store.db).2.steps.rows) : StepIntact (store.exec e q m.store).2 s := by
  refine ⟨placed_of_exec (fun s hs => (h.steps s hs).placed) hs, ?_⟩
  cases Stmt.exec_attempt hs with
  | kept hmem => exact (h.steps s hmem).timely.later hnow
  | @updated s _ _ hmem hq _ =>
      exact chronicle_of_stepUpdate hbegan hq ((h.steps s hmem).timely.later hnow)
  | inserted _ => exact .new hbegan _ _

theorem named_of_exec (h : Intact cfg m.store) (hq : Sane cfg i e q m) {name : String}
    {r' : NamespaceRow} (hnew : (q.exec e m.store.db).2.namespaceRow name = some r') :
    name ≠ "" := by
  have hc := q.exec_namespace e m.store.db name
  rw [hnew] at hc
  cases hold : m.store.db.namespaceRow name with
  | some r => exact h.named name r hold
  | none =>
      rw [hold] at hc
      obtain rfl := Db.name_of_namespaceRow hnew
      cases hc with
      | created => exact hq

/-- A sane statement keeps the tables intact. -/
theorem intact_kept (cfg : Config) : Invariant (store.restrict (Sane cfg)) fun m =>
  Intact cfg m.store := by
  rintro i e q m h ⟨⟨hnow, -, hbegan⟩, hq⟩
  exact {
    named := fun _ _ hnew => named_of_exec h hq hnew
    referred := q.exec_referred e h.referred
    runs := fun _ _ hnew => runIntact_of_exec h hnow hbegan hq hnew
    steps := fun _ hs => stepIntact_of_exec h hnow hbegan hs
    workers := fun _ _ hnew => workerIntact_of_exec h hnow hnew }

end Statements

/-! ## The handlers -/

section Handlers
variable (cfg : Config)

/-- The statement is sane whatever the state is. -/
def AlwaysSane : Stmt → Prop
  | .upsertNamespace name _ => name ≠ ""
  | .pollWorkflow _ _ _ _ _ => False
  | .updateWorkflow _ workflow => workflow.status.isScheduleTemplate = true
  | _ => True

variable {cfg}

theorem AlwaysSane.sane {i : Nat} {e : Env} {q : Stmt} {m : Now} (h : AlwaysSane q) :
    Sane cfg i e q m := by
  cases q with
  | pollWorkflow _ _ _ _ _ => exact h.elim
  | _ => exact h

theorem uses_requireNonEmpty_empty {α : Type} {allowed : Stmt → Prop} {value field : String}
    {f : Unit → Rpc α} (h : value = "") : (requireNonEmpty value field >>= f).Uses allowed := by
  rw [requireNonEmpty, if_pos h]
  trivial

/-- A request that names no namespace makes none. -/
theorem startWorkflow_nameless {req : StartWorkflowRequest} (h : req.ns = "") :
    (WorkflowService.startWorkflow cfg req).Uses AlwaysSane :=
  uses_requireNonEmpty_bind (uses_requireNonEmpty_bind (uses_requireNonEmpty_bind
    (uses_requireNonEmpty_empty h)))

theorem createWorkflowSchedule_nameless {req : CreateWorkflowScheduleRequest} (h : req.ns = "") :
    (ScheduleService.createWorkflowSchedule cfg req).Uses AlwaysSane :=
  uses_requireNonEmpty_bind (uses_requireNonEmpty_bind (uses_requireNonEmpty_bind
    (uses_requireNonEmpty_bind (uses_requireNonEmpty_empty h))))

/-- A request that is not a poll makes sane statements only. -/
theorem handle_sane (req : Request) (h : ∀ r waits, req ≠ .pollTask r waits) :
    (handle cfg req).Uses AlwaysSane := by
  by_cases hname : ∃ r, (req = .startWorkflow r ∧ r.ns = "")
  · obtain ⟨r, rfl, hempty⟩ := hname
    exact startWorkflow_nameless hempty
  by_cases hname' : ∃ r, (req = .createWorkflowSchedule r ∧ r.ns = "")
  · obtain ⟨r, rfl, hempty⟩ := hname'
    exact createWorkflowSchedule_nameless hempty
  refine ((handle_uses cfg req).and (handle_reaches cfg req)).mono fun q ⟨hmay, hreach⟩ => ?_
  cases q with
  | upsertNamespace name now =>
      rcases hreach with ⟨r, hr, rfl⟩ | ⟨r, hr, rfl⟩
      · exact fun hempty => hname ⟨r, hr, hempty⟩
      · exact fun hempty => hname' ⟨r, hr, hempty⟩
  | pollWorkflow _ _ _ _ _ =>
      obtain ⟨⟨r, waits, hr, -⟩, -⟩ := hmay
      exact h r waits hr
  | updateWorkflow _ _ => exact hmay.2.1
  | _ => trivial

theorem names_kept (cfg : Config) (text ns taskQueue : String) :
    Invariant (store.restrict (Sane cfg)) fun m => Names cfg m.store text ns taskQueue :=
  fun _ _ _ _ h _ => h.exec

/-- A program of sane statements keeps what no statement destroys. -/
theorem sat_sane {ε α : Type} {i : Nat} {K : Now → Prop} {p : Prog Stmt Stmt.Result ε α}
    (hp : p.Uses AlwaysSane) (hK : Invariant (store.restrict (Sane cfg)) K) :
    Sat store (Sane cfg) i K p (fun _ => K) fun _ => K :=
  Sat.of_uses hp hK.stable fun e q m hq hm ha => ⟨hq.sane, hK i e q m hm ⟨ha, hq.sane⟩⟩

theorem alwaysSane_readsSteps {q : Stmt} (h : q.readsSteps = true) : AlwaysSane q := by
  cases q with
  | upsertNamespace _ _ => cases h
  | pollWorkflow _ _ _ _ _ => cases h
  | updateWorkflow _ _ => cases h
  | _ => trivial

theorem dispatch_sane (item : ClaimedWorkflow) :
    (WorkerService.dispatch cfg item).Uses AlwaysSane := by
  refine Prog.Uses.bind (Prog.Uses.attempt (uses_sql trivial)) fun _ => ?_
  refine Prog.Uses.bind (Prog.Uses.attempt ?_) fun _ => trivial
  exact recordLifecycleEvent_uses alwaysSane_readsSteps _ _ _ (fun _ _ _ _ => trivial)
    fun _ _ _ _ => ⟨trivial, trivial⟩

section Poll
variable {i : Nat} {req : PollTaskRequest} {types : List String}

/-- The loop asks for the worker that was found. -/
theorem sat_pollLoop (waits : Nat) :
    Sat store (Sane cfg) i (fun m => Names cfg m.store req.workerId req.ns req.taskQueue)
      (WorkerService.pollLoop cfg req types waits) (fun _ _ => True) fun _ _ => True := by
  have hkept := names_kept cfg req.workerId req.ns req.taskQueue
  let poll : Stmt := .pollWorkflow req.ns req.taskQueue req.workerId types
      cfg.worker.visibilityTimeoutSecs
  have huses : (sql poll).Uses fun q => q = poll := uses_sql rfl
  have hpoll : Sat store (Sane cfg) i (fun m => Names cfg m.store req.workerId req.ns req.taskQueue)
      (stmt poll) (fun _ m => Names cfg m.store req.workerId req.ns req.taskQueue)
      fun _ _ => True := by
    refine Sat.mapError (Sat.of_uses huses hkept.stable ?_) fun _ _ _ => trivial
    rintro e q m rfl hm ha
    exact ⟨hm, hkept i e _ m hm ⟨ha, hm⟩⟩
  have hgiven : ∀ item, Sat store (Sane cfg) i
      (fun m => Names cfg m.store req.workerId req.ns req.taskQueue)
      (WorkerService.dispatch cfg item) (fun _ _ => True) fun _ _ => True := fun item =>
    (sat_sane (dispatch_sane item) hkept).mono (fun _ h => h) (fun _ _ _ => trivial)
      fun _ _ _ => trivial
  induction waits with
  | zero =>
      refine hpoll.bind fun found => ?_
      cases found with
      | some item => exact hgiven item
      | none => exact fun _ _ => trivial
  | succ waits ih =>
      refine hpoll.bind fun found => ?_
      cases found with
      | some item => exact hgiven item
      | none => exact ih

theorem sat_findWorker {workerId : Uuid} :
    Sat store (Sane cfg) i (fun _ => True) (stmt (.findWorker workerId))
      (fun found m => ∀ x, found = some x → ∀ text, cfg.parseUuid text = some workerId →
        Names cfg m.store text x.ns x.taskQueue) fun _ _ => True := by
  refine Sat.mapError (sat_sql ?_ fun e m _ _ => ⟨trivial, ?_⟩) fun _ _ _ => trivial
  · exact fun found j e q m _ hL _ _ x hx text htext => (hL x hx text htext).exec
  · rintro found hres x rfl text htext
    have hfound : (store.exec e (.findWorker workerId) m.store).2.worker workerId = some x := by
      rw [store_exec_fst, Stmt.exec_ok hres] at hres
      have hget : m.store.db.worker workerId = some x := Except.ok.inj hres
      have hdb : (Stmt.exec e (.findWorker workerId) m.store.db).2 = m.store.db := by
        rcases Stmt.exec_cases e (.findWorker workerId) m.store.db with hx | hx
        · exact congrArg Prod.snd hx
        · exact congrArg Prod.snd hx
      exact (congrArg (fun db => Db.worker db workerId) hdb).trans hget
    exact ⟨workerId, x, htext, hfound, rfl, rfl⟩

theorem sat_pollTask (waits : Nat) :
    Sat store (Sane cfg) i (fun _ => True) (WorkerService.pollTask cfg req waits)
      (fun _ _ => True) fun _ _ => True := by
  refine sat_uuid_bind (fun workerId hid => ?_) fun _ _ _ => trivial
  split
  next => exact fun _ _ => trivial
  next =>
    refine sat_requireNonEmpty_bind ?_ fun _ _ _ => trivial
    refine sat_findWorker.bind fun found => ?_
    refine sat_orFail_bind (fun x hx => ?_) fun _ _ => trivial
    split
    next => exact fun _ _ => trivial
    next hqueue =>
      obtain ⟨hns, htask⟩ := not_or.mp hqueue
      split
      next => exact fun _ _ => trivial
      next =>
        split
        next => exact fun _ _ => trivial
        next =>
          dsimp only
          split
          next => exact fun _ _ => trivial
          next =>
            refine (sat_pollLoop waits).start fun m hm => ?_
            rw [← not_not.mp hns, ← not_not.mp htask]
            exact hm x hx req.workerId hid

end Poll

theorem serves (cfg : Config) :
    Serves (Payload.service cfg) (Sane cfg) (fun m => Intact cfg m.store) (fun _ _ _ _ => True)
      fun _ _ _ _ => True := by
  intro i req _
  refine ⟨fun _ => True, fun _ _ _ _ _ _ _ _ => trivial, fun _ _ _ => trivial, ?_⟩
  by_cases hpoll : ∃ r waits, req = .pollTask r waits
  · obtain ⟨r, waits, rfl⟩ := hpoll
    exact sat_pollTask waits
  · exact sat_sane (handle_sane req fun r waits h => hpoll ⟨r, waits, h⟩) fun _ _ _ _ _ _ => trivial

end Handlers

/-! ## Every run -/

theorem intact_empty (cfg : Config) (now : Int) : Intact cfg (.empty now) where
  named _ r h := nomatch (h : (none : Option NamespaceRow) = some r)
  referred _ p h := nomatch (h : (none : Option PayloadRow) = some p)
  runs _ r h := nomatch (h : (none : Option RunRow) = some r)
  steps s h := nomatch (h : s ∈ [])
  workers _ x h := nomatch (h : (none : Option WorkerRow) = some x)

/-- Whatever the requests and the coordinator do, and wherever they fail, tables that are
intact stay intact. -/
theorem database_is_intact (cfg : Config) {w : World} (hw : Intact cfg w) {p : ServerState}
    (h : Steps (Payload.service cfg) (.init w []) p) : Intact cfg p.store :=
  (h.sound (serves cfg) (intact_kept cfg) hw (sound_nil w)).1.invariant (intact_kept cfg) hw

/-- A run is started, and a worker has polled for it. -/
def taken : ServerState := fireAll (Payload.service .sample) (.init (.empty 0) [])
  ([.start (.startWorkflow ⟨"job", "queue", "type", some [7], "ns", "", none⟩)] ++
      runs 0 6 (.quiet 0 1) ++
    [.start (.register ⟨"ns", "queue", ["type"], "", 0, ""⟩)] ++ runs 1 1 (.quiet 0 2) ++
    [.start (.pollTask ⟨"queue", "2", "ns", ["type"]⟩ 0)] ++ runs 2 7 (.quiet 1 3))

/-- The run is held by the worker, and its history is that of a run of its namespace. -/
theorem database_is_intact_taken :
    (∃ r, taken.store.run 1 = some r ∧ r.lockedBy = some "2" ∧ RunIntact .sample taken.store r) ∧
      taken.store.db.steps.rows.length = 1 ∧ ∀ s ∈ taken.store.db.steps.rows,
          StepIntact taken.store s := by
  have hsteps : Steps (Payload.service .sample) (.init (.empty 0) []) taken :=
    AllEnabled.steps (by decide +kernel)
  have hintact := database_is_intact .sample (intact_empty .sample 0) hsteps
  have hlock : (taken.store.run 1).map RunRow.lockedBy = some (some "2") := by decide +kernel
  obtain ⟨r, hr, hheld⟩ := Option.map_eq_some_iff.mp hlock
  exact ⟨⟨r, hr, hheld, hintact.runs 1 r hr⟩, by decide +kernel, hintact.steps⟩

end Integrity

end Kagzi
