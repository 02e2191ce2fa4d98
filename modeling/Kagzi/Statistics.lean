import Mathlib.Algebra.BigOperators.Group.List.Lemmas
import Kagzi.Idempotence
import Kagzi.Server.Footprint
import Kagzi.Server.Namespaces

/-!
# Statistics

`get_stats` counts the runs of a namespace by status and by type, and the two sums are the
same.  It counts as schedules the runs that are `SCHEDULED` and have a `schedule_id`.  A
template has no `schedule_id`, and an instance, which has one, is never `SCHEDULED`, so that
both numbers of schedules are always zero (`stats_match_iff`).

That no instance becomes a template takes an argument.  The edits of a template write the
row back that they have read, and `create_workflow_schedule` writes a status and an
expression over whatever run has the external id.  An instance is kept out by its external
id, which begins with `schedule-` where that of a schedule begins with `schedule:`.
-/

namespace Kagzi

open Atomic Relational

namespace Statistics

/-- The server, for all requests. -/
abbrev service (cfg : Config) : Service Stmt Stmt.Result World Env Request Status Response :=
  server cfg fun _ => True

/-! ## What is claimed -/

/-- The run is a template: `SCHEDULED` or `PAUSED`, with a cron expression. -/
def isTemplate (r : RunRow) : Bool := r.status.isScheduleTemplate && r.cronExpr.isSome

/-- The runs that the statistics are about. -/
def runsOf (ns : Option String) (db : Db) : List RunRow :=
  NamespaceRepository.runsOf (ns.getD "default") db

/-- The numbers of the answer are those of the table. -/
structure Match (ns : Option String) (db : Db) : Prop where
  byStatus : (AdminService.getStats ns db).totalWorkflows =
    ((AdminService.getStats ns db).workflowsByStatus.map Prod.snd).sum
  total : (AdminService.getStats ns db).totalWorkflows = (runsOf ns db).length
  schedules : (AdminService.getStats ns db).totalSchedules = (runsOf ns db).countP isTemplate
  enabled : (AdminService.getStats ns db).enabledSchedules =
    (runsOf ns db).countP fun r => isTemplate r && r.status = .scheduled

/-- The statistics match in every state that the server reaches. -/
def AlwaysMatch (cfg : Config) : Prop :=
  ∀ (now : Int) (p : ServerState), Steps (service cfg) (.init (.empty now) []) p →
    ∀ ns, Match ns p.store.db

/-! ## Runs by status and by type -/

section Sums
variable {ns : Option String} {db : Db}

/-- The elements with each value, over all values, are all of them. -/
theorem sum_countP_dedup {α β : Type} [DecidableEq β] (f : α → β) (xs : List α) :
    ((xs.map f).dedup.map fun b => xs.countP fun x => f x = b).sum = xs.length := by
  have hcount : ∀ b, (xs.map f).count b = xs.countP fun x => f x = b := by
    intro b
    rw [List.count_eq_countP, List.countP_map]
    exact List.countP_congr fun x _ => by simp
  have hsum := List.sum_map_count_dedup_eq_length (xs.map f)
  rw [List.length_map] at hsum
  rw [← hsum]
  simp only [hcount]

theorem totalWorkflows_eq : (AdminService.getStats ns db).totalWorkflows = (runsOf ns db).length := by
  have hsum := sum_countP_dedup RunRow.workflowType (runsOf ns db)
  rw [← hsum]
  simp only [AdminService.getStats, NamespaceRepository.getStats, NamespaceRepository.group,
    List.map_map, runsOf, List.countP_eq_length_filter]
  rfl

theorem sum_byStatus_eq :
    ((AdminService.getStats ns db).workflowsByStatus.map Prod.snd).sum = (runsOf ns db).length := by
  have hsum := sum_countP_dedup RunRow.status (runsOf ns db)
  rw [← hsum]
  simp only [AdminService.getStats, NamespaceRepository.getStats, List.map_map, runsOf]
  rfl

end Sums

/-! ## Instances -/

/-- The external id is one of an instance. -/
def Instanced (externalId : String) : Prop := ∃ rest, externalId = "schedule-" ++ rest

/-- A run with a `schedule_id` is an instance, which has no cron expression. -/
def Proper (r : RunRow) : Prop :=
  r.scheduleId.isSome → r.cronExpr = none ∧ r.status ≠ .scheduled ∧ Instanced r.externalId

/-- All runs are proper. -/
def AllProper (m : Now) : Prop := ∀ r ∈ m.store.db.runs.rows, Proper r

/-- What is written as a new run, or over a run, is proper there. -/
def Guarded : Condition Stmt Stmt.Result World Env := fun _ _ q m =>
  match q with
  | .createWorkflow params =>
      params.scheduleId.isSome → params.cronExpr = none ∧ Instanced params.externalId
  | .updateWorkflow runId workflow =>
      ∀ r, m.store.run runId = some r → Proper (RunRow.overwrite workflow r)
  | _ => True

theorem not_instanced (scheduleId : String) : ¬ Instanced ("schedule:" ++ scheduleId) := by
  rintro ⟨rest, h⟩
  have hlist := congrArg String.toList h
  simp [String.toList_append] at hlist

/-- The external id of an instance for a slot. -/
theorem instanced_of_slot (runId : Uuid) : Instanced ("schedule-instance-" ++ toString runId) :=
  ⟨"instance-" ++ toString runId, by rw [← String.append_assoc]; rfl⟩

/-- A change of the status, but to `SCHEDULED`. -/
theorem Proper.moved {r r' : RunRow} (h : Proper r) (hid : r'.scheduleId = r.scheduleId)
    (hcron : r'.cronExpr = r.cronExpr) (hx : r'.externalId = r.externalId)
    (hs : r'.status ≠ .scheduled) : Proper r' := by
  intro hsome
  rw [hid] at hsome
  rw [hcron, hx]
  exact ⟨(h hsome).1, hs, (h hsome).2.2⟩

/-- The run has the external id, or is gone for good. -/
def Named (runId : Uuid) (externalId : String) (m : Now) : Prop :=
  (∃ r, m.store.run runId = some r ∧ r.externalId = externalId) ∨
    (m.store.run runId = none ∧ runId ∈ m.store.retired)

section OneStatement
variable {e : Env} {q : Stmt} {m : Now} {i : Nat} {runId : Uuid} {externalId : String}

/-- A statement keeps a run proper, or makes a proper one. -/
theorem proper_of_change {new : Option RunRow} (hq : Guarded i e q m)
    (hc : RunChange e q (m.store.run runId) new) (h : ∀ r, m.store.run runId = some r → Proper r) :
    ∀ r, new = some r → Proper r := by
  generalize hold : m.store.run runId = old at hc h
  rintro r' rfl
  cases hc with
  | same => exact h _ rfl
  | created => exact fun hs => ⟨(hq hs).1, nofun, (hq hs).2⟩
  | instantiated => exact fun _ => ⟨rfl, nofun, instanced_of_slot _⟩
  | claimed _ => exact (h _ rfl).moved rfl rfl rfl nofun
  | @extended _ _ r _ _ => exact h r rfl
  | cancelledRunning _ => exact (h _ rfl).moved rfl rfl rfl nofun
  | cancelledWaiting _ => exact (h _ rfl).moved rfl rfl rfl nofun
  | completed _ => exact (h _ rfl).moved rfl rfl rfl nofun
  | failed _ => exact (h _ rfl).moved rfl rfl rfl nofun
  | slept _ => exact (h _ rfl).moved rfl rfl rfl nofun
  | retried _ => exact (h _ rfl).moved rfl rfl rfl nofun
  | @nextFired _ _ r => exact h r rfl
  | overwritten => exact hq _ ((Db.runId_of_run hold).symm ▸ hold)
  | orphaned _ _ => exact nofun

theorem allProper_kept : Invariant (store.restrict Guarded) AllProper := by
  rintro i e q m hm ⟨-, hq⟩ r hr
  have hrun : (q.exec e m.store.db).2.run r.runId = some r := Db.run_of_mem hr
  exact proper_of_change hq (q.exec_run e m.store.db r.runId)
    (fun r₀ hr₀ => hm r₀ (Db.mem_of_run hr₀)) r hrun

/-- No statement changes the external id of a run. -/
theorem externalId_of_change {old new : RunRow} (hc : RunChange e q (some old) (some new)) :
    new.externalId = old.externalId := by
  cases hc <;> rfl

theorem named_kept : Invariant store (Named runId externalId) := by
  intro i e q m hm ha
  have hkeeps : m.store.Keeps runId fun r => r.externalId = externalId := hm
  exact hkeeps.exec (fun _ _ hold hc => (externalId_of_change hc).trans hold) ha.2.1

end OneStatement

/-! ## The handlers -/

theorem Proper.none_of_cron {r : RunRow} (h : Proper r) (hcron : r.cronExpr.isSome) :
    r.scheduleId = none := by
  by_contra hne
  rw [(h (Option.isSome_iff_ne_none.mpr hne)).1] at hcron
  cases hcron

theorem Proper.none_of_externalId {r : RunRow} {scheduleId : String} (h : Proper r)
    (hx : r.externalId = "schedule:" ++ scheduleId) : r.scheduleId = none := by
  by_contra hne
  exact not_instanced scheduleId (hx ▸ (h (Option.isSome_iff_ne_none.mpr hne)).2.2)

/-- What is not linked to a template is proper. -/
theorem proper_overwrite_of_none {workflow r : RunRow} (h : workflow.scheduleId = none) :
    Proper (RunRow.overwrite workflow r) := by
  intro hs
  rw [show (RunRow.overwrite workflow r).scheduleId = none from h] at hs
  cases hs

section Judgements
variable {cfg : Config} {i : Nat} {K : Now → Prop} {runId : Uuid} {ns : String}

/-- Statements that neither create nor edit a run. -/
def Plain : Stmt → Prop
  | .createWorkflow _ => False
  | .updateWorkflow _ _ => False
  | _ => True

theorem Plain.guarded {q : Stmt} (h : Plain q) (e : Env) (m : Now) : Guarded i e q m := by
  cases q with
  | createWorkflow _ => exact h.elim
  | updateWorkflow _ _ => exact h.elim
  | _ => trivial

/-- A part of a handler that neither creates nor edits a run. -/
theorem sat_plain {α : Type} {c : Rpc α} (hc : c.Uses Plain)
    (hK : Invariant (store.restrict Guarded) K) :
    Sat store Guarded i K c (fun _ => K) fun _ _ => True :=
  (Sat.of_uses hc hK.stable fun e q m hq hm ha =>
    ⟨hq.guarded e m, hK i e q m hm ⟨ha, hq.guarded e m⟩⟩).mono (fun _ h => h) (fun _ _ h => h)
    fun _ _ _ => trivial

/-- The row was read at a moment of which `K` was known. -/
def ReadAt (K : Now → Prop) (runId : Uuid) (w : WorkflowRun) : Prop :=
  ∃ m, K m ∧ m.store.run runId = some w.toRunRow

theorem sat_findById (hK : Invariant (store.restrict Guarded) K) :
    Sat store Guarded i K (stmt (.findById runId ns))
      (fun found m => (∀ w, found = some w → ReadAt K runId w ∧ Named runId w.externalId m) ∧ K m)
      fun _ _ => True := by
  have hread : Sat store Guarded i K (sql (.findById runId ns))
      (fun found m => (∀ w, found = some w → ReadAt K runId w ∧ Named runId w.externalId m) ∧ K m)
      fun _ => K := by
    refine sat_sql_learn (fun _ _ _ _ => trivial) hK ?_ ?_
    · intro found j e q m h ha w hw
      exact ⟨(h w hw).1, named_kept j e q m (h w hw).2 ha.1⟩
    · rintro e m found hm - hres w rfl
      obtain ⟨hrun, -, -⟩ := run_of_findById hres
      have hafter : (m.after store i e (.findById runId ns)).store.run runId = some w.toRunRow := by
        show ((Stmt.findById runId ns).exec e m.store.db).2.run runId = some w.toRunRow
        rw [Stmt.exec_ok hres]
        exact hrun
      exact ⟨⟨m, hm, hrun⟩, .inl ⟨w.toRunRow, hafter, rfl⟩⟩
  exact hread.mapError fun _ _ _ => trivial

theorem sat_find (hK : Invariant (store.restrict Guarded) K) (text : String) :
    Sat store Guarded i K (ScheduleService.find runId ns text)
      (fun w m => ReadAt K runId w ∧ Named runId w.externalId m) fun _ _ => True := by
  refine Sat.bind (sat_findById hK) fun found => ?_
  cases found with
  | none => exact fun _ _ => trivial
  | some w => exact fun m hm => hm.1 w rfl

theorem true_kept : Invariant (store.restrict Guarded) fun _ => True := fun _ _ _ _ _ _ => trivial

theorem sat_edit {workflow : RunRow}
    (h : ∀ m, K m → ∀ r, m.store.run runId = some r → Proper (RunRow.overwrite workflow r)) :
    Sat store Guarded i K (stmt (.updateWorkflow runId workflow)) (fun _ _ => True)
      fun _ _ => True := by
  have hedit : Sat store Guarded i K (sql (.updateWorkflow runId workflow)) (fun _ _ => True)
      fun _ _ => True := sat_sql (fun _ => stable_true) fun e m hm _ => ⟨h m hm, fun _ _ => trivial⟩
  exact hedit.mapError fun _ _ _ => trivial

/-- A look at the clock, or a new id. -/
theorem sat_stmt_bind {q : Stmt} {β : Type} {f : q.Ans → Rpc β} (hq : Plain q)
    (hK : Invariant (store.restrict Guarded) K)
    (h : ∀ a, Sat store Guarded i K (f a) (fun _ _ => True) fun _ _ => True) :
    Sat store Guarded i K (stmt q >>= f) (fun _ _ => True) fun _ _ => True :=
  (sat_plain (uses_stmt hq) hK).bind h

theorem sat_answer (w : WorkflowRun) :
    Sat store Guarded i (fun _ => True) (ScheduleService.answer cfg w) (fun _ _ => True)
      fun _ _ => True :=
  Sat.ofExcept_bind (fun _ _ _ _ => trivial) fun _ _ _ => trivial

/-- What was read of a run that is proper throughout. -/
theorem ReadAt.proper {w : WorkflowRun} (h : ReadAt K runId w) (hK : ∀ m, K m → AllProper m) :
    Proper w.toRunRow := by
  obtain ⟨m, hm, hr⟩ := h
  exact hK m hm _ (Db.mem_of_run hr)

/-- A run that is paused stays what it is. -/
theorem proper_paused {w : WorkflowRun} {m : Now} {r : RunRow} (hread : ReadAt AllProper runId w)
    (hnamed : Named runId w.externalId m) (hr : m.store.run runId = some r) :
    Proper (RunRow.overwrite { w.toRunRow with status := .paused } r) := by
  intro hs
  obtain ⟨hcron, -, hx⟩ := hread.proper (fun _ h => h) hs
  refine ⟨hcron, nofun, ?_⟩
  rcases hnamed with ⟨r', hr', heq⟩ | ⟨hnone, -⟩
  · obtain rfl := Option.some.inj (hr.symm.trans hr')
    exact heq ▸ hx
  · rw [hnone] at hr
    cases hr

/-- A run that can be enabled is no instance. -/
theorem none_of_cronOf {w : WorkflowRun} {message : String} {cron : Recurrence}
    (hread : ReadAt AllProper runId w) (h : ScheduleService.cronOf cfg w message = .ok cron) :
    w.scheduleId = none := by
  refine (hread.proper fun _ h => h).none_of_cron ?_
  unfold ScheduleService.cronOf at h
  split at h
  next hcron => rw [hcron]; rfl
  next => cases h

theorem sat_pause (req : ScheduleRequest) :
    Sat store Guarded i AllProper (ScheduleService.pauseWorkflowSchedule cfg req) (fun _ _ => True)
      fun _ _ => True := by
  refine sat_uuid_bind (fun runId _ => ?_) fun _ _ _ => trivial
  refine sat_requireNonEmpty_bind ?_ fun _ _ _ => trivial
  refine (sat_find allProper_kept _).bind fun w => Sat.of_fact fun hread => ?_
  exact (sat_edit fun m hnamed r hr => proper_paused hread hnamed hr).bind fun _ => sat_answer _

theorem sat_resume (req : ScheduleRequest) :
    Sat store Guarded i AllProper (ScheduleService.resumeWorkflowSchedule cfg req) (fun _ _ => True)
      fun _ _ => True := by
  refine sat_uuid_bind (fun runId _ => ?_) fun _ _ _ => trivial
  refine sat_requireNonEmpty_bind ?_ fun _ _ _ => trivial
  refine (sat_find allProper_kept _).bind fun w => Sat.of_fact fun hread => ?_
  refine Sat.ofExcept_bind (fun cron hcron => ?_) fun _ _ _ => trivial
  have hnone := none_of_cronOf hread hcron
  refine (sat_stmt_bind (q := .utcNow) trivial true_kept fun now => ?_).start fun _ _ => trivial
  refine Sat.ofExcept_bind (fun nextFire _ => ?_) fun _ _ _ => trivial
  refine Sat.bind (sat_edit fun _ _ _ _ => ?_) fun _ => sat_answer _
  exact proper_overwrite_of_none hnone

theorem sat_setEnabled {w : WorkflowRun} {enabled : Option Bool} (hread : ReadAt AllProper runId w) :
    Sat store Guarded i (Named runId w.externalId) (ScheduleService.setEnabled cfg runId w enabled)
      (fun _ _ => True) fun _ _ => True := by
  match enabled with
  | none => exact fun _ _ => trivial
  | some false => exact sat_edit fun m hnamed r hr => proper_paused hread hnamed hr
  | some true =>
      refine Sat.ofExcept_bind (fun cron hcron => ?_) fun _ _ _ => trivial
      have hnone := none_of_cronOf hread hcron
      refine (sat_stmt_bind (q := .utcNow) trivial true_kept fun now => ?_).start fun _ _ => trivial
      refine Sat.ofExcept_bind (fun fire _ => ?_) fun _ _ _ => trivial
      exact sat_edit fun _ _ _ _ => proper_overwrite_of_none hnone

theorem checkCron_plain (cronExpr : Option String) : (ScheduleService.checkCron cfg cronExpr).Uses Plain := by
  cases cronExpr with
  | none => trivial
  | some expr =>
      refine (Prog.uses_ofExcept _).bind fun cron => (uses_stmt trivial).bind fun now => ?_
      exact (Prog.uses_ofExcept _).bind fun _ => trivial

theorem sat_update (req : UpdateWorkflowScheduleRequest) :
    Sat store Guarded i AllProper (ScheduleService.updateWorkflowSchedule cfg req) (fun _ _ => True)
      fun _ _ => True := by
  refine sat_uuid_bind (fun runId _ => ?_) fun _ _ _ => trivial
  refine sat_requireNonEmpty_bind ?_ fun _ _ _ => trivial
  refine (sat_find allProper_kept _).bind fun w => Sat.of_fact fun hread => ?_
  refine (sat_plain (checkCron_plain _) named_kept.restrict).bind fun _ => ?_
  refine (sat_setEnabled hread).bind fun _ => ?_
  refine ((sat_find true_kept _).mono (fun _ h => h) (fun _ _ _ => trivial) fun _ _ h => h).bind fun w => ?_
  exact sat_answer w

theorem id_of_createWorkflow {params : CreateWorkflow} {e : Env} {w : World} {id : Uuid}
    (h : (store.exec e (.createWorkflow params) w).1 = .ok id) : id = params.runId := by
  rw [store_exec_fst, Stmt.exec_ok h] at h
  change (createWorkflow params e w.db).1 = .ok id at h
  unfold createWorkflow at h
  dsimp only at h
  split at h
  next =>
    split at h
    next => exact (Except.ok.inj h).symm
    next => cases h
  next => cases h

/-- A run is created that is proper, and has its external id from then on. -/
theorem sat_create {max : Nat} {params : CreateWorkflow} (hK : Invariant (store.restrict Guarded) K)
    (h : params.scheduleId.isSome → params.cronExpr = none ∧ Instanced params.externalId) :
    Sat store Guarded i K (call (WorkflowRepository.create max params))
      (fun _ m => Named params.runId params.externalId m ∧ K m) fun _ _ => True := by
  have hcreate : Sat store Guarded i K (sql (.createWorkflow params))
      (fun _ m => Named params.runId params.externalId m ∧ K m) fun _ => K := by
    refine sat_sql_learn (fun _ _ _ _ => h) hK (fun _ => named_kept.restrict) fun e m id hm _ hres => ?_
    obtain ⟨⟨r, hr, -, hx, -⟩, -⟩ := Idempotence.createWorkflow_ok hres
    exact .inl ⟨r, id_of_createWorkflow hres ▸ hr, hx⟩
  refine (Sat.ofExcept_bind (fun _ _ => ?_) fun _ _ _ => trivial).mapError fun _ _ _ => trivial
  exact hcreate.mono (fun _ h => h) (fun _ _ h => h) fun _ _ _ => trivial

theorem sat_trigger (req : ScheduleRequest) :
    Sat store Guarded i AllProper (ScheduleService.triggerWorkflowSchedule cfg req) (fun _ _ => True)
      fun _ _ => True := by
  refine sat_uuid_bind (fun scheduleId _ => ?_) fun _ _ _ => trivial
  refine sat_requireNonEmpty_bind ?_ fun _ _ _ => trivial
  refine (sat_find allProper_kept _).bind fun w => ?_
  refine (sat_stmt_bind (q := .newUuid) trivial true_kept fun runId => ?_).start fun _ _ => trivial
  refine Sat.bind (sat_create true_kept fun _ => ⟨rfl, ?_⟩) fun _ _ _ => trivial
  exact ⟨cfg.uuidText scheduleId ++ "-" ++ cfg.uuidText runId, by simp only [String.append_assoc]⟩

theorem getOrCreate_plain (ns : String) : (NamespaceRepository.getOrCreate ns).Uses Plain := by
  refine (uses_sql trivial).bind fun found => ?_
  cases found with
  | some _ => trivial
  | none => exact (uses_sql trivial).bind fun now => uses_sql trivial

/-- The run that a schedule is found by has the external id of a schedule. -/
theorem sat_findActive {externalId : String} :
    Sat store Guarded i AllProper (stmt (.findActiveByExternalId ns externalId))
      (fun found m => (∀ id, found = some id → Named id externalId m) ∧ AllProper m)
      fun _ _ => True := by
  have hfind : Sat store Guarded i AllProper (sql (.findActiveByExternalId ns externalId))
      (fun found m => (∀ id, found = some id → Named id externalId m) ∧ AllProper m)
      fun _ => AllProper := by
    refine sat_sql_learn (fun _ _ _ _ => trivial) allProper_kept ?_ ?_
    · exact fun found j e q m h ha id hid => named_kept j e q m (h id hid) ha.1
    · rintro e m found - - hres id rfl
      obtain ⟨-, r, hr, -, hx, -⟩ := Idempotence.findActive_ok hres
      exact .inl ⟨r, hr, hx⟩
  exact hfind.mapError fun _ _ _ => trivial

/-- A run that was read under the external id of a schedule is no instance. -/
theorem none_of_named {scheduleId : String} {w : WorkflowRun}
    (h : ReadAt (fun m => Named runId ("schedule:" ++ scheduleId) m ∧ AllProper m) runId w) :
    w.scheduleId = none := by
  have hproper := h.proper fun _ hm => hm.2
  obtain ⟨m, ⟨⟨r, hr, hx⟩ | ⟨hnone, -⟩, -⟩, hread⟩ := h
  · obtain rfl := Option.some.inj (hread.symm.trans hr)
    exact hproper.none_of_externalId hx
  · rw [hnone] at hread
    cases hread

theorem named_proper_kept {externalId : String} : Invariant (store.restrict Guarded)
    fun m => Named runId externalId m ∧ AllProper m :=
  fun j e q m h ha => ⟨named_kept j e q m h.1 ha.1, allProper_kept j e q m h.2 ha⟩

theorem sat_createSchedule (req : CreateWorkflowScheduleRequest) :
    Sat store Guarded i AllProper (ScheduleService.createWorkflowSchedule cfg req) (fun _ _ => True)
      fun _ _ => True := by
  refine sat_requireNonEmpty_bind ?_ fun _ _ _ => trivial
  refine sat_requireNonEmpty_bind ?_ fun _ _ _ => trivial
  refine sat_requireNonEmpty_bind ?_ fun _ _ _ => trivial
  refine sat_requireNonEmpty_bind ?_ fun _ _ _ => trivial
  refine sat_requireNonEmpty_bind ?_ fun _ _ _ => trivial
  refine (sat_plain (uses_call (getOrCreate_plain _)) allProper_kept).bind fun _ => ?_
  refine sat_stmt_bind (q := .utcNow) trivial allProper_kept fun now => ?_
  refine Sat.ofExcept_bind (fun firstFire _ => ?_) fun _ _ _ => trivial
  refine Sat.bind sat_findActive fun found => ?_
  cases found with
  | some existingRunId =>
      refine Sat.start (Sat.bind (sat_findById named_proper_kept) fun found => ?_)
        fun m hm => ⟨hm.1 _ rfl, hm.2⟩
      refine sat_orFail_bind (fun w hw => ?_) fun _ _ => trivial
      refine Sat.start (Sat.of_fact fun hread => ?_) fun m hm => ⟨(hm.1 w hw).1, trivial⟩
      have hnone : w.scheduleId = none := none_of_named hread
      refine Sat.bind (sat_edit fun _ _ _ _ => ?_) fun _ => sat_answer _
      exact proper_overwrite_of_none hnone
  | none =>
      refine Sat.start ?_ fun m hm => hm.2
      refine sat_stmt_bind (q := .newUuid) trivial allProper_kept fun runId => ?_
      refine Sat.bind (sat_create allProper_kept nofun) fun _ => ?_
      refine (sat_findById named_proper_kept).bind fun found => ?_
      refine sat_orFail_bind (fun w hw => ?_) fun _ _ => trivial
      refine Sat.start (Sat.of_fact fun hread => ?_) fun m hm => ⟨(hm.1 w hw).1, trivial⟩
      have hnone : w.scheduleId = none := none_of_named hread
      refine Sat.bind (sat_edit fun _ _ _ _ => ?_) fun _ => sat_answer _
      exact proper_overwrite_of_none hnone

/-- The other requests link no run to a template, and edit none. -/
theorem guarded_of_may {req : Request} {q : Stmt} (h : req.may cfg q) (hedit : req.editsTemplate = false)
    (htrigger : ∀ r, req ≠ .triggerWorkflowSchedule r) (i : Nat) (e : Env) (m : Now) :
    Guarded i e q m := by
  cases q with
  | createWorkflow params =>
      intro hs
      rcases h with hnone | ⟨r, hr⟩
      · rw [hnone] at hs
        cases hs
      · exact absurd hr (htrigger r)
  | updateWorkflow runId workflow =>
      have hedits : req.editsTemplate = true := h.1
      rw [hedit] at hedits
      cases hedits
  | _ => trivial

end Judgements

theorem serves (cfg : Config) :
    Serves (service cfg) Guarded AllProper (fun _ _ _ _ => True) (fun _ _ _ _ => True) := by
  intro i req _
  refine ⟨AllProper, allProper_kept.stable, fun _ h _ => h, ?_⟩
  have hother : req.editsTemplate = false → (∀ r, req ≠ .triggerWorkflowSchedule r) →
      Sat store Guarded i AllProper (handle cfg req) (fun _ _ => True) fun _ _ => True := by
    intro hedit htrigger
    refine (Sat.of_uses (handle_uses cfg req) allProper_kept.stable fun e q m hq hm ha => ?_).mono
      (fun _ h => h) (fun _ _ _ => trivial) fun _ _ _ => trivial
    have hguard := guarded_of_may hq hedit htrigger i e m
    exact ⟨hguard, allProper_kept i e q m hm ⟨ha, hguard⟩⟩
  cases req with
  | createWorkflowSchedule req => exact sat_createSchedule req
  | updateWorkflowSchedule req => exact sat_update req
  | pauseWorkflowSchedule req => exact sat_pause req
  | resumeWorkflowSchedule req => exact sat_resume req
  | triggerWorkflowSchedule req => exact sat_trigger req
  | _ => exact hother rfl nofun

/-! ## The result -/

theorem allProper_of_steps {cfg : Config} {now : Int} {p : ServerState}
    (h : Steps (service cfg) (.init (.empty now) []) p) : AllProper p.toMoment := by
  have hstart : AllProper ⟨.empty now, []⟩ := by
    intro r hr
    have hempty : r ∈ ([] : List RunRow) := hr
    cases hempty
  obtain ⟨hrun, -⟩ := h.sound (serves cfg) allProper_kept hstart (sound_nil _)
  exact hrun.invariant allProper_kept hstart

/-- The numbers of schedules are zero where all runs are proper. -/
theorem schedules_eq_zero (ns : Option String) {m : Now} (h : AllProper m) :
    (AdminService.getStats ns m.store.db).totalSchedules = 0 ∧
      (AdminService.getStats ns m.store.db).enabledSchedules = 0 := by
  have hcount : (runsOf ns m.store.db).countP
      (fun r => r.status = .scheduled && r.scheduleId.isSome) = 0 := by
    refine List.countP_eq_zero.mpr fun r hr hscheduled => ?_
    obtain ⟨hs, hid⟩ : r.status = .scheduled ∧ r.scheduleId.isSome = true := by simpa using hscheduled
    exact (h r (List.mem_of_mem_filter hr) hid).2.1 hs
  exact ⟨hcount, hcount⟩

/-- The statistics match exactly if the namespace has no template. -/
theorem stats_match_iff (cfg : Config) {now : Int} {p : ServerState}
    (h : Steps (service cfg) (.init (.empty now) []) p) (ns : Option String) :
    Match ns p.store.db ↔ ∀ r ∈ runsOf ns p.store.db, isTemplate r = false := by
  obtain ⟨htotal, henabled⟩ := schedules_eq_zero ns (allProper_of_steps h)
  constructor
  · intro hmatch r hr
    have hnone := hmatch.schedules
    rw [htotal, eq_comm, List.countP_eq_zero] at hnone
    simpa using hnone r hr
  · intro hnone
    refine ⟨by rw [totalWorkflows_eq, sum_byStatus_eq], totalWorkflows_eq, ?_, ?_⟩
    · rw [htotal, eq_comm, List.countP_eq_zero]
      intro r hr
      simp [hnone r hr]
    · rw [henabled, eq_comm, List.countP_eq_zero]
      intro r hr
      simp [hnone r hr]

/-- A schedule is created, and not counted. -/
theorem template_is_not_counted : ¬ AlwaysMatch .sample := by
  intro hmatch
  have hsteps : Steps (service .sample) (.init (.empty 0) [])
      (fireAll (service .sample) (.init (.empty 0) []) (createTenSeconds none)) :=
    AllEnabled.steps (by decide +kernel)
  have hcount := (hmatch 0 _ hsteps (some "ns")).schedules
  revert hcount
  decide +kernel

/-- A run is started, and no schedule is created. -/
def started : ServerState :=
  fireAll (service .sample) (.init (.empty 0) [])
    ([.start (.startWorkflow ⟨"job", "queue", "type", none, "ns", "", none⟩)] ++ runs 0 6 (.quiet 0 1))

theorem stats_match_started : runsOf (some "ns") started.store.db ≠ [] ∧ Match (some "ns") started.store.db :=
  ⟨by decide +kernel,
    (stats_match_iff .sample (AllEnabled.steps (by decide +kernel)) (some "ns")).mpr (by decide +kernel)⟩

end Statistics

end Kagzi
