import Kagzi.Store.Statement

/-!
# What a statement does to a run

`RunChange e q old new` lists everything a statement `q` can do to the row of one
run: nothing, or one of the updates of `Store.Workflow` under the condition its
`WHERE` clause gives.  `Stmt.exec_run` says that the list is complete, and every
invariant of the runs is a case analysis over it.
-/

namespace Kagzi

open Relational

/-- What can become of the row of a run, in the supply `e`.  A row that is not
there is `none`. -/
inductive RunChange (e : Env) : Stmt → Option RunRow → Option RunRow → Prop where
  | same {q : Stmt} {o : Option RunRow} : RunChange e q o o
  | created {params : CreateWorkflow} :
      RunChange e (.createWorkflow params) none (some (RunRow.created params e.began))
  | instantiated {t : RunRow} {fireAt : Int} :
      RunChange e (.createScheduleInstance t.runId fireAt) none
        (some (t.instanceOf e.fresh fireAt e.now))
  | claimed {ns taskQueue workerId : String} {types : List String} {secs : Int} {r : RunRow} :
      r.available ns taskQueue types e = true →
      RunChange e (.pollWorkflow ns taskQueue workerId types secs) (some r)
        (some (r.claim workerId secs e.now))
  | extended {workerId : String} {secs : Int} {r : RunRow} :
      r.lockedBy = some workerId → r.status = .running →
      RunChange e (.extendVisibility workerId secs) (some r) (some (r.extend secs e.now))
  | cancelledRunning {ns : String} {r : RunRow} :
      r.status = .running →
      RunChange e (.cancelRunning r.runId ns) (some r) (some (r.cancel e.began))
  | cancelledWaiting {ns : String} {r : RunRow} :
      r.status = .pending ∨ r.status = .sleeping →
      RunChange e (.cancelWaiting r.runId ns) (some r) (some (r.cancel e.began))
  | completed {output : Bytes} {r : RunRow} :
      r.status = .running →
      RunChange e (.completeRun r.runId output) (some r) (some (r.complete e.began))
  | failed {error : String} {r : RunRow} :
      r.status = .running →
      RunChange e (.setFailed r.runId error) (some r) (some (r.setFailed error e.began))
  | slept {secs : Nat} {r : RunRow} :
      r.status = .running →
      RunChange e (.scheduleSleep r.runId secs) (some r) (some (r.sleep secs e.began))
  | retried {ms : Nat} {r : RunRow} :
      r.status = .running →
      RunChange e (.scheduleRetry r.runId ms) (some r) (some (r.retry ms e.began))
  | nextFired {next : Int} {last : Option Int} {r : RunRow} :
      RunChange e (.updateNextFire r.runId next last) (some r) (some (r.nextFire next last))
  | overwritten {workflow r : RunRow} :
      RunChange e (.updateWorkflow r.runId workflow) (some r)
        (some (RunRow.overwrite workflow r))
  | deleted {r : RunRow} : RunChange e (.deleteRun r.runId) (some r) none
  | orphaned {templateRunId : Uuid} {r : RunRow} :
      r.scheduleId = some templateRunId → r.runId ≠ templateRunId →
      RunChange e (.deleteRun templateRunId) (some r) (some r.orphan)

/-- The run that the statement puts off, and until when.  The delay counts from the `BEGIN`
of the transaction. -/
def Stmt.putsOff (e : Env) : Stmt → Option (Uuid × Int)
  | .scheduleSleep runId secs => some (runId, e.began + seconds secs)
  | .scheduleRetry runId ms => some (runId, e.began + milliseconds ms)
  | _ => none

/-! ## Looking runs up -/

theorem Db.runId_of_run {db : Db} {runId : Uuid} {r : RunRow} (h : db.run runId = some r) :
    r.runId = runId :=
  Table.key_of_get? h

theorem Db.mem_of_run {db : Db} {runId : Uuid} {r : RunRow} (h : db.run runId = some r) :
    r ∈ db.runs.rows :=
  Table.mem_of_get? h

theorem Db.run_of_mem {db : Db} {r : RunRow} (h : r ∈ db.runs.rows) :
    db.run r.runId = some r :=
  Table.get?_of_mem h

theorem Db.run_congr {db db' : Db} (h : db'.runs = db.runs) (runId : Uuid) :
    db'.run runId = db.run runId := by
  simp only [Db.run, h]

theorem Db.run_valid {db : Db} {runId : Uuid} {r : RunRow} (h : db.run runId = some r) :
    r.Valid :=
  db.runs.valid r (Db.mem_of_run h)

/-! ## Updates and insertions -/

theorem Db.updateRuns_run {db db' : Db} {p : RunRow → Bool} {f : RunRow → RunRow}
    (hf : ∀ r, (f r).runId = r.runId) (h : db.updateRuns p f = .ok db') (runId : Uuid) :
    db'.run runId = (db.run runId).map (amend p f) := by
  unfold Db.updateRuns at h
  split at h
  next runs hu =>
    obtain rfl := Except.ok.inj h
    exact Table.get?_update? hf hu runId
  next => cases h

/-- An update of the runs that `commitRuns` makes either changes nothing or
applies to every row that satisfies its condition. -/
theorem Db.commitRuns_run {α : Type} (db : Db) {p : RunRow → Bool} {f : RunRow → RunRow} (a : α)
    (hf : ∀ r, (f r).runId = r.runId) (runId : Uuid) :
    (db.commitRuns p f a).2.run runId = db.run runId ∨
      ∃ r, db.run runId = some r ∧ p r = true ∧
        (db.commitRuns p f a).2.run runId = some (f r) := by
  unfold Db.commitRuns
  split
  next db' hu =>
    rw [Db.updateRuns_run hf hu]
    cases hr : db.run runId with
    | none => exact .inl rfl
    | some r =>
        cases hp : p r with
        | false => exact .inl (by simp [hp])
        | true => exact .inr ⟨r, rfl, hp, by simp [hp]⟩
  next => exact .inl rfl

theorem Db.commitRuns_ok_iff {α : Type} {db : Db} {p : RunRow → Bool} {f : RunRow → RunRow} {a : α} :
    (∃ b, (db.commitRuns p f a).1 = .ok b) ↔ ∃ runs, db.runs.update? p f = some runs := by
  unfold Db.commitRuns Db.updateRuns
  cases db.runs.update? p f <;> simp

/-- An update that succeeds is a map over the rows. -/
theorem Db.commitRuns_ok {α : Type} {db : Db} {p : RunRow → Bool} {f : RunRow → RunRow} {a b : α}
    (hf : ∀ r, (f r).runId = r.runId) (h : (db.commitRuns p f a).1 = .ok b) (runId : Uuid) :
    (db.commitRuns p f a).2.run runId = (db.run runId).map (amend p f) := by
  unfold Db.commitRuns at h ⊢
  split at h
  next db' hu => exact Db.updateRuns_run hf hu runId
  next => cases h

/-- An update that hits a run of the given id. -/
theorem Db.commitRuns_hit {db : Db} {p : RunRow → Bool} {f : RunRow → RunRow}
    (hf : ∀ r, (f r).runId = r.runId) {runId : Uuid} (hp : ∀ r, p r = true → r.runId = runId)
    (h : (db.commitRuns p f (db.runs.rows.any p)).1 = .ok true) :
    ∃ r, db.run runId = some r ∧ p r = true ∧
      (db.commitRuns p f (db.runs.rows.any p)).2.run runId = some (f r) := by
  have hrun := Db.commitRuns_ok hf h runId
  have hany : db.runs.rows.any p = true := by
    unfold Db.commitRuns at h
    split at h
    next => exact Except.ok.inj h
    next => cases h
  obtain ⟨r, hmem, hr⟩ := List.any_eq_true.mp hany
  have hget : db.run runId = some r := hp r hr ▸ Db.run_of_mem hmem
  rw [hget, Option.map_some, amend_of_true hr] at hrun
  exact ⟨r, hget, hr, hrun⟩

/-- An update that hits no run changes nothing. -/
theorem Db.commitRuns_miss {α : Type} {db : Db} {p : RunRow → Bool} {f : RunRow → RunRow} {a : α}
    (h : ∀ r ∈ db.runs.rows, p r = false) : db.commitRuns p f a = (.ok a, db) := by
  simp [Db.commitRuns, Db.updateRuns, Table.update?_of_none h]

/-- An update that fails changes nothing. -/
theorem Db.commitRuns_error {α : Type} {db : Db} {p : RunRow → Bool} {f : RunRow → RunRow} {a : α}
    {x : StoreError} (h : (db.commitRuns p f a).1 = .error x) :
    (db.commitRuns p f a).2 = db := by
  unfold Db.commitRuns at h ⊢
  split at h
  next => cases h
  next => rfl

theorem Db.insertRun_run (db : Db) (row : RunRow) (input : Option Bytes) (runId : Uuid) :
    (db.insertRun row input).2.run runId = db.run runId ∨
      (row.runId = runId ∧ db.run runId = none ∧
        (db.insertRun row input).2.run runId = some row) := by
  have key : ∀ {runs : Table RunRow} (payloads : Table PayloadRow),
      db.runs.insert? row = some runs →
      ({ db with runs := runs, payloads := payloads } : Db).run runId = db.run runId ∨
        (row.runId = runId ∧ db.run runId = none ∧
          ({ db with runs := runs, payloads := payloads } : Db).run runId = some row) := by
    intro runs payloads hi
    have hget : runs.get? runId = if row.runId = runId then some row else db.runs.get? runId :=
      Table.get?_insert? hi runId
    by_cases hid : row.runId = runId
    · refine .inr ⟨hid, ?_, ?_⟩
      · exact hid ▸ Table.get?_key_of_insert? hi
      · simpa [Db.run, hid] using hget
    · exact .inl (by simpa [Db.run, hid] using hget)
  unfold Db.insertRun
  split
  next => exact .inl rfl
  next hi => exact key db.payloads hi
  next hi =>
    split
    next => exact .inl rfl
    next payloads _ => exact key payloads hi

/-- An insertion that fails changes nothing. -/
theorem Db.insertRun_error {db db' : Db} {row : RunRow} {input : Option Bytes} {x : StoreError}
    (h : (db.insertRun row input).1 = .error x) (hdb : (db.insertRun row input).2 = db') :
    db' = db := by
  subst hdb
  revert h
  unfold Db.insertRun
  split
  next => exact fun _ => rfl
  next =>
    intro h
    cases h
  next =>
    split
    next => exact fun _ => rfl
    next =>
      intro h
      cases h

theorem Db.withOutput_runs (db : Db) (runId : Uuid) (output : Bytes) :
    (db.withOutput runId output).runs = db.runs := by
  unfold Db.withOutput
  split <;> rfl

/-! ## One statement after the other -/

section Statements
variable (e : Env) (db : Db) (runId : Uuid)

theorem createWorkflow_run (params : CreateWorkflow) :
    RunChange e (.createWorkflow params) (db.run runId)
      ((createWorkflow params e db).2.run runId) := by
  have hdb : (createWorkflow params e db).2 = db ∨ (createWorkflow params e db).2
      = (db.insertRun (RunRow.created params e.began) (some params.input)).2 := by
    unfold createWorkflow
    dsimp only
    split
    next =>
      split
      next h => exact .inr (by rw [h])
      next h => exact .inr (by rw [h])
    next => exact .inl rfl
  rcases hdb with hdb | hdb
  · rw [hdb]
    exact .same
  · rw [hdb]
    rcases db.insertRun_run (RunRow.created params e.began) (some params.input) runId with
      h | ⟨-, hnone, hsome⟩
    · rw [h]
      exact .same
    · rw [hnone, hsome]
      exact .created

theorem createScheduleInstance_run (templateRunId : Uuid) (fireAt : Int) :
    RunChange e (.createScheduleInstance templateRunId fireAt) (db.run runId)
      ((createScheduleInstance templateRunId fireAt e db).2.run runId) := by
  unfold createScheduleInstance
  split
  next => exact .same
  next t ht =>
    obtain rfl := Db.runId_of_run ht
    split
    next => exact .same
    next =>
      rcases db.insertRun_run (t.instanceOf e.fresh fireAt e.now)
          ((db.payloads.get? t.runId).map PayloadRow.input) runId with h | ⟨-, hnone, hsome⟩
      · rw [h]
        exact .same
      · rw [hnone, hsome]
        exact .instantiated

/-- An update of one run by its id. -/
theorem commitRuns_change {q : Stmt} {α : Type} {p : RunRow → Bool} {f : RunRow → RunRow} (a : α)
    (hf : ∀ r, (f r).runId = r.runId)
    (hq : ∀ r, db.run runId = some r → p r = true → RunChange e q (some r) (some (f r))) :
    RunChange e q (db.run runId) ((db.commitRuns p f a).2.run runId) := by
  rcases db.commitRuns_run a hf runId with h | ⟨r, hr, hp, h⟩
  · rw [h]
    exact .same
  · rw [h, hr]
    exact hq r hr hp

theorem isAt_iff {status : WorkflowStatus} {r : RunRow} :
    r.isAt runId status = true ↔ r.runId = runId ∧ r.status = status := by
  simp [RunRow.isAt]

theorem completeRun_run (target : Uuid) (output : Bytes) :
    RunChange e (.completeRun target output) (db.run runId)
      ((completeRun target output e db).2.run runId) := by
  unfold completeRun
  dsimp only
  split
  next =>
    split
    next db' hu =>
      have hrun : (db'.withOutput target output).run runId = db'.run runId :=
        Db.run_congr (db'.withOutput_runs target output) runId
      dsimp only
      have hu' := Db.updateRuns_run (f := RunRow.complete e.began) (fun _ => rfl) hu runId
      rw [hrun, hu']
      cases hr : db.run runId with
      | none => exact .same
      | some r =>
          cases hp : r.isAt target .running with
          | false =>
              have : Option.map (amend (RunRow.isAt target .running) (RunRow.complete e.began))
                  (some r) = some r := by simp [hp]
              rw [this]
              exact .same
          | true =>
              have : Option.map (amend (RunRow.isAt target .running) (RunRow.complete e.began))
                  (some r) = some (r.complete e.began) := by simp [hp]
              rw [this]
              obtain ⟨rfl, hs⟩ := (isAt_iff target).mp hp
              exact .completed hs
    next => exact .same
  next => exact .same

theorem pollWorkflow_run (ns taskQueue workerId : String) (types : List String) (secs : Int) :
    RunChange e (.pollWorkflow ns taskQueue workerId types secs) (db.run runId)
      ((pollWorkflow ns taskQueue workerId types secs e db).2.run runId) := by
  unfold pollWorkflow
  split
  next => exact .same
  next task htask =>
    obtain ⟨hmem, hav⟩ := List.mem_filter.mp (mem_of_earliest htask)
    split
    next => exact .same
    next db' hu =>
      have hrun : db'.run runId = (db.run runId).map
          (amend (fun r => decide (r.runId = task.runId)) (RunRow.claim workerId secs e.now)) :=
        Db.updateRuns_run (f := RunRow.claim workerId secs e.now) (fun _ => rfl) hu runId
      have key : RunChange e (.pollWorkflow ns taskQueue workerId types secs) (db.run runId)
          (db'.run runId) := by
        rw [hrun]
        cases hr : db.run runId with
        | none => exact .same
        | some r =>
            by_cases hid : r.runId = task.runId
            · have hrt : r = task := by
                have := Db.run_of_mem hmem
                rw [← hid, Db.runId_of_run hr, hr] at this
                exact Option.some.inj this
              subst hrt
              simpa using RunChange.claimed hav
            · simpa [amend, hid] using RunChange.same
      split
      next => exact key
      next => exact key

theorem deleteRun_run (target : Uuid) :
    RunChange e (.deleteRun target) (db.run runId) ((deleteRun target e db).2.run runId) := by
  unfold deleteRun
  split
  next => exact .same
  next =>
    split
    next => exact .same
    next runs hu =>
      have hget : runs.get? runId
          = ((db.runs.delete fun r => decide (r.runId = target)).get? runId).map
            (amend (fun r => decide (r.scheduleId = some target)) RunRow.orphan) :=
        Table.get?_update? (f := RunRow.orphan) (fun _ => rfl) hu runId
      rw [Table.get?_delete] at hget
      have hrun : ({ db with
          runs := runs
          payloads := db.payloads.delete fun p => decide (p.runId = target) } : Db).run runId
          = runs.get? runId := rfl
      rw [hrun, hget]
      cases hr : db.run runId with
      | none =>
          rw [show db.runs.get? runId = none from hr]
          exact .same
      | some r =>
          rw [show db.runs.get? runId = some r from hr]
          by_cases hid : r.runId = target
          · subst hid
            simpa [Option.filter_some] using RunChange.deleted
          · by_cases hs : r.scheduleId = some target
            · simpa [Option.filter_some, hid, hs] using RunChange.orphaned hs hid
            · simpa [Option.filter_some, hid, hs] using RunChange.same

end Statements

/-! ## Statements that leave the runs alone -/

/-- The runs and their payloads are the same. -/
structure Db.SameRuns (db db' : Db) : Prop where
  runs : db'.runs = db.runs
  payloads : db'.payloads = db.payloads

theorem Db.SameRuns.refl (db : Db) : db.SameRuns db := ⟨rfl, rfl⟩

theorem Db.commitSteps_runs {α : Type} (db : Db) (p : StepRow → Bool) (f : StepRow → StepRow)
    (a : α) : db.SameRuns (db.commitSteps p f a).2 := by
  unfold Db.commitSteps
  split <;> exact ⟨rfl, rfl⟩

theorem Db.commitWorkers_runs {α : Type} (db : Db) (p : WorkerRow → Bool)
    (f : WorkerRow → WorkerRow) (a : α) : db.SameRuns (db.commitWorkers p f a).2 := by
  unfold Db.commitWorkers
  split <;> exact ⟨rfl, rfl⟩

theorem Db.insertStep_runs {db db' : Db} {step : NewStep} {now : Int}
    (h : db.insertStep step now = .ok db') : db.SameRuns db' := by
  unfold Db.insertStep at h
  split at h
  next => cases h
  next =>
    split at h
    next => cases h
    next =>
      obtain rfl := Except.ok.inj h
      exact ⟨rfl, rfl⟩

theorem supersede_runs (step : NewStep) (e : Env) (db : Db) :
    db.SameRuns (supersede step e db).2 := by
  unfold supersede
  split
  next =>
    split
    next => exact .refl db
    next =>
      split
      next h => exact ⟨(Db.insertStep_runs h).runs, (Db.insertStep_runs h).payloads⟩
      next => exact .refl db
  next => exact .refl db

theorem insertStep_runs (step : NewStep) (e : Env) (db : Db) :
    db.SameRuns (insertStep step e db).2 := by
  unfold insertStep
  split
  next h => exact Db.insertStep_runs h
  next => exact .refl db

theorem registerWorker_runs (params : RegisterWorkerParams) (e : Env) (db : Db) :
    db.SameRuns (registerWorker params e db).2 := by
  unfold registerWorker
  split
  next => exact Db.commitWorkers_runs ..
  next =>
    split
    next => split <;> exact ⟨rfl, rfl⟩
    next => exact .refl db

theorem upsertNamespace_runs (name : String) (now : Int) (e : Env) (db : Db) :
    db.SameRuns (upsertNamespace name now e db).2 := by
  unfold upsertNamespace
  split
  next => exact ⟨rfl, rfl⟩
  next => split <;> exact ⟨rfl, rfl⟩

theorem setNamespaceEnabled_runs (name : String) (enabled : Bool) (now : Int) (e : Env) (db : Db) :
    db.SameRuns (setNamespaceEnabled name enabled now e db).2 := by
  unfold setNamespaceEnabled
  dsimp only
  split <;> exact ⟨rfl, rfl⟩

theorem checkWorkflowState_runs (runId : Uuid) (ns : String) (e : Env) (db : Db) :
    db.SameRuns (checkWorkflowState runId ns e db).2 := by
  unfold checkWorkflowState
  split <;> exact .refl db

theorem findDueSchedules_runs (now limit : Int) (e : Env) (db : Db) :
    db.SameRuns (findDueSchedules now limit e db).2 := by
  unfold findDueSchedules
  split <;> exact .refl db

/-- The statement changes no run and no payload. -/
def Stmt.sparesRuns : Stmt → Bool
  | .createWorkflow _ => false
  | .cancelRunning _ _ => false
  | .cancelWaiting _ _ => false
  | .completeRun _ _ => false
  | .setOutput _ _ => false
  | .setFailed _ _ => false
  | .scheduleSleep _ _ => false
  | .scheduleRetry _ _ => false
  | .pollWorkflow _ _ _ _ _ => false
  | .extendVisibility _ _ => false
  | .createScheduleInstance _ _ => false
  | .updateNextFire _ _ _ => false
  | .updateWorkflow _ _ => false
  | .deletePayload _ => false
  | .deleteRun _ => false
  | _ => true

theorem Stmt.sql_sparesRuns {q : Stmt} (h : q.sparesRuns = true) (e : Env) (db : Db) :
    db.SameRuns (q.sql e db).2 := by
  cases q with
  | checkWorkflowState runId ns => exact checkWorkflowState_runs runId ns e db
  | findDueSchedules now limit => exact findDueSchedules_runs now limit e db
  | supersede step => exact supersede_runs step e db
  | insertStep step => exact insertStep_runs step e db
  | completeRunningStep _ _ _ => exact Db.commitSteps_runs ..
  | failRunningStep _ _ _ => exact Db.commitSteps_runs ..
  | failLatestStep _ _ _ => exact Db.commitSteps_runs ..
  | completePendingSleeps _ => exact Db.commitSteps_runs ..
  | recordLatestStep _ _ _ _ _ => exact Db.commitSteps_runs ..
  | registerWorker params => exact registerWorker_runs params e db
  | heartbeatWorker _ => exact Db.commitWorkers_runs ..
  | startDrain _ _ => exact Db.commitWorkers_runs ..
  | deregisterWorker _ _ => exact Db.commitWorkers_runs ..
  | markStaleOffline _ => exact Db.commitWorkers_runs ..
  | upsertNamespace name now => exact upsertNamespace_runs name now e db
  | setNamespaceEnabled name enabled now => exact setNamespaceEnabled_runs name enabled now e db
  | _ => first | exact .refl db | cases h

/-! ## All statements -/

theorem Stmt.sql_run (e : Env) (q : Stmt) (db : Db) (runId : Uuid) :
    RunChange e q (db.run runId) ((q.sql e db).2.run runId) := by
  cases hspare : q.sparesRuns with
  | true =>
      rw [Db.run_congr (q.sql_sparesRuns hspare e db).runs]
      exact .same
  | false =>
  cases q with
  | createWorkflow params => exact createWorkflow_run e db runId params
  | cancelRunning target ns =>
      refine commitRuns_change e db runId _ (fun _ => rfl) fun r _ hp => ?_
      simp only [Bool.and_eq_true, decide_eq_true_eq] at hp
      obtain ⟨⟨rfl, -⟩, hs⟩ := hp
      exact .cancelledRunning hs
  | cancelWaiting target ns =>
      refine commitRuns_change e db runId _ (fun _ => rfl) fun r _ hp => ?_
      simp only [Bool.and_eq_true, Bool.or_eq_true, decide_eq_true_eq] at hp
      obtain ⟨⟨rfl, -⟩, hs⟩ := hp
      exact .cancelledWaiting hs
  | completeRun target output => exact completeRun_run e db runId target output
  | setOutput target output =>
      change RunChange e _ _ ((db.withOutput target output).run runId)
      rw [Db.run_congr (db.withOutput_runs target output)]
      exact .same
  | setFailed target error =>
      refine commitRuns_change e db runId _ (fun _ => rfl) fun r _ hp => ?_
      obtain ⟨rfl, hs⟩ := (isAt_iff target).mp hp
      exact .failed hs
  | scheduleSleep target secs =>
      refine commitRuns_change e db runId _ (fun _ => rfl) fun r _ hp => ?_
      obtain ⟨rfl, hs⟩ := (isAt_iff target).mp hp
      exact .slept hs
  | scheduleRetry target ms =>
      refine commitRuns_change e db runId _ (fun _ => rfl) fun r _ hp => ?_
      obtain ⟨rfl, hs⟩ := (isAt_iff target).mp hp
      exact .retried hs
  | pollWorkflow ns taskQueue workerId types secs =>
      exact pollWorkflow_run e db runId ns taskQueue workerId types secs
  | extendVisibility workerId secs =>
      refine commitRuns_change e db runId _ (fun _ => rfl) fun r _ hp => ?_
      simp only [Bool.and_eq_true, decide_eq_true_eq] at hp
      exact .extended hp.1 hp.2
  | createScheduleInstance templateRunId fireAt =>
      exact createScheduleInstance_run e db runId templateRunId fireAt
  | updateNextFire target next last =>
      refine commitRuns_change e db runId _ (fun _ => rfl) fun r _ hp => ?_
      obtain rfl : r.runId = target := by simpa using hp
      exact .nextFired
  | updateWorkflow target workflow =>
      simp only [Stmt.sql, Kagzi.updateWorkflow]
      split
      next =>
        refine commitRuns_change e db runId _ (fun _ => rfl) fun r _ hp => ?_
        obtain rfl : r.runId = target := by simpa using hp
        exact .overwritten
      next => exact .same
  | deletePayload _ => exact .same
  | deleteRun target => exact deleteRun_run e db runId target
  | _ => cases hspare

/-- Whatever a statement does to a run is in the list. -/
theorem Stmt.exec_run (e : Env) (q : Stmt) (db : Db) (runId : Uuid) :
    RunChange e q (db.run runId) ((q.exec e db).2.run runId) := by
  rcases q.exec_cases e db with h | h
  · rw [h]
    exact .same
  · rw [h]
    exact q.sql_run e db runId

/-! ## Payloads -/

/-- The run has a payload. -/
def Db.HasPayload (db : Db) (runId : Uuid) : Prop := (db.payloads.get? runId).isSome = true

/-- The run that a statement of `delete` is about. -/
def Stmt.deletes : Stmt → Option Uuid
  | .deletePayload runId => some runId
  | .deleteRun runId => some runId
  | _ => none

/-- What a statement can make of the payload of a run. -/
inductive PayloadChange (e : Env) : Stmt → Option PayloadRow → Option PayloadRow → Prop where
  | same {q : Stmt} {o : Option PayloadRow} : PayloadChange e q o o
  | created {params : CreateWorkflow} :
      PayloadChange e (.createWorkflow params) none (some ⟨params.runId, params.input, none⟩)
  | instantiated {template : Uuid} {fireAt : Int} {input : Bytes} :
      PayloadChange e (.createScheduleInstance template fireAt) none (some ⟨e.fresh, input, none⟩)
  | completed {p : PayloadRow} {output : Bytes} :
      PayloadChange e (.completeRun p.runId output) (some p) (some { p with output := some output })
  | written {p : PayloadRow} {output : Bytes} :
      PayloadChange e (.setOutput p.runId output) (some p) (some { p with output := some output })
  | deleted {q : Stmt} {p : PayloadRow} :
      q.deletes = some p.runId → PayloadChange e q (some p) none

/-- The payload of a run. -/
def Db.payload (db : Db) (runId : Uuid) : Option PayloadRow := db.payloads.get? runId

section Payloads
variable {e : Env} {q : Stmt} {db : Db} {runId : Uuid}

theorem Db.payload_congr {db' : Db} (h : db'.payloads = db.payloads) :
    db'.payload runId = db.payload runId := by
  simp only [Db.payload, h]

theorem payloadChange_of_eq {db' : Db} (h : db'.payloads = db.payloads) :
    PayloadChange e q (db.payload runId) (db'.payload runId) := by
  rw [Db.payload_congr h]
  exact .same

theorem Db.updateRuns_payloads {db' : Db} {p : RunRow → Bool} {f : RunRow → RunRow}
    (h : db.updateRuns p f = .ok db') : db'.payloads = db.payloads := by
  unfold Db.updateRuns at h
  split at h
  next =>
    obtain rfl := Except.ok.inj h
    rfl
  next => cases h

theorem Db.commitRuns_payloads {α : Type} (p : RunRow → Bool) (f : RunRow → RunRow) (a : α) :
    (db.commitRuns p f a).2.payloads = db.payloads := by
  unfold Db.commitRuns
  split
  next h => exact Db.updateRuns_payloads h
  next => rfl

theorem Db.withOutput_payload (db : Db) (target : Uuid) (output : Bytes) (runId : Uuid) :
    (db.withOutput target output).payload runId = db.payload runId ∨
      ∃ p, p.runId = target ∧ db.payload runId = some p ∧
        (db.withOutput target output).payload runId = some { p with output := some output } := by
  unfold Db.withOutput
  split
  next payloads hu =>
    have hget := Table.get?_update? (f := fun r : PayloadRow => { r with output := some output })
      (fun _ => rfl) hu runId
    cases hp : db.payloads.get? runId with
    | none =>
        rw [hp] at hget
        exact .inl (hget.trans hp.symm)
    | some p =>
        rw [hp, Option.map_some] at hget
        by_cases hid : p.runId = target
        · rw [amend_of_true (by simp [hid])] at hget
          exact .inr ⟨p, hid, hp, hget⟩
        · rw [amend_of_false (by simp [hid])] at hget
          exact .inl (hget.trans hp.symm)
  next => exact .inl rfl

theorem Db.insertRun_payload (db : Db) (row : RunRow) (input : Option Bytes) (runId : Uuid) :
    (db.insertRun row input).2.payload runId = db.payload runId ∨
      ∃ bytes, input = some bytes ∧ db.payload runId = none ∧
        (db.insertRun row input).2.payload runId = some ⟨row.runId, bytes, none⟩ := by
  unfold Db.insertRun
  split
  next => exact .inl rfl
  next => exact .inl rfl
  next bytes _ =>
    split
    next => exact .inl rfl
    next payloads hi =>
      have hget := Table.get?_insert? hi runId
      split at hget
      next hid =>
        subst hid
        exact .inr ⟨bytes, rfl, Table.get?_key_of_insert? hi, hget⟩
      next => exact .inl hget

theorem createWorkflow_payload (params : CreateWorkflow) (e : Env) (db : Db) (runId : Uuid) :
    PayloadChange e (.createWorkflow params) (db.payload runId)
      ((createWorkflow params e db).2.payload runId) := by
  have h := db.insertRun_payload (RunRow.created params e.began) (some params.input) runId
  have hinsert : PayloadChange e (.createWorkflow params) (db.payload runId)
      ((db.insertRun (RunRow.created params e.began) (some params.input)).2.payload runId) := by
    rcases h with h | ⟨bytes, hbytes, hnone, hsome⟩
    · rw [h]
      exact .same
    · rw [hnone, hsome, ← Option.some.inj hbytes]
      exact .created
  unfold createWorkflow
  dsimp only
  split
  next =>
    split
    next hi => rwa [hi] at hinsert
    next hi => rwa [hi] at hinsert
  next => exact .same

theorem pollWorkflow_payloads (ns taskQueue workerId : String) (types : List String) (secs : Int)
    (e : Env) : (pollWorkflow ns taskQueue workerId types secs e db).2.payloads = db.payloads := by
  unfold pollWorkflow
  split
  next => rfl
  next =>
    split
    next => rfl
    next hu => split <;> exact Db.updateRuns_payloads hu

theorem completeRun_payload (target : Uuid) (output : Bytes) (e : Env) (db : Db) (runId : Uuid) :
    PayloadChange e (.completeRun target output) (db.payload runId)
      ((completeRun target output e db).2.payload runId) := by
  unfold completeRun
  dsimp only
  split
  next =>
    split
    next db' hu =>
      have hdb' : db'.payload runId = db.payload runId :=
        Db.payload_congr (Db.updateRuns_payloads hu)
      rcases db'.withOutput_payload target output runId with h | ⟨p, rfl, hold, hnew⟩
      · rw [h, hdb']
        exact .same
      · rw [hnew, ← hdb', hold]
        exact .completed
    next => exact .same
  next => exact .same

theorem createScheduleInstance_payload (templateRunId : Uuid) (fireAt : Int) (e : Env) (db : Db)
    (runId : Uuid) :
    PayloadChange e (.createScheduleInstance templateRunId fireAt) (db.payload runId)
      ((createScheduleInstance templateRunId fireAt e db).2.payload runId) := by
  unfold createScheduleInstance
  split
  next => exact .same
  next =>
    split
    next => exact .same
    next =>
      rcases Db.insertRun_payload db _ _ runId with h | ⟨bytes, -, hnone, hsome⟩
      · rw [h]
        exact .same
      · rw [hnone, hsome]
        exact .instantiated

theorem delete_payload {target : Uuid} (hq : q.deletes = some target) :
    PayloadChange e q (db.payload runId)
      (({ db with payloads := db.payloads.delete fun p => p.runId = target } : Db).payload
        runId) := by
  have hget := db.payloads.get?_delete (fun p => p.runId = target) runId
  show PayloadChange e q (db.payload runId) ((db.payloads.delete _).get? runId)
  rw [hget]
  cases hp : db.payload runId with
  | none =>
      rw [show db.payloads.get? runId = none from hp]
      exact .same
  | some p =>
      rw [show db.payloads.get? runId = some p from hp]
      by_cases hid : p.runId = target
      · have hnone : (some p).filter (fun r => !decide (r.runId = target)) = none := by simp [hid]
        rw [hnone]
        exact .deleted (hid ▸ hq)
      · have hsome : (some p).filter (fun r => !decide (r.runId = target)) = some p := by simp [hid]
        rw [hsome]
        exact .same

theorem deleteRun_payload (target : Uuid) (e : Env) (db : Db) (runId : Uuid) :
    PayloadChange e (.deleteRun target) (db.payload runId)
      ((deleteRun target e db).2.payload runId) := by
  unfold deleteRun
  split
  next => exact .same
  next =>
    split
    next => exact .same
    next => exact delete_payload rfl

theorem Stmt.sql_payload (e : Env) (q : Stmt) (db : Db) (runId : Uuid) :
    PayloadChange e q (db.payload runId) ((q.sql e db).2.payload runId) := by
  cases hspare : q.sparesRuns with
  | true => exact payloadChange_of_eq (q.sql_sparesRuns hspare e db).payloads
  | false =>
  cases q with
  | createWorkflow params => exact createWorkflow_payload params e db runId
  | completeRun target output => exact completeRun_payload target output e db runId
  | setOutput target output =>
      show PayloadChange e _ _ ((db.withOutput target output).payload runId)
      rcases db.withOutput_payload target output runId with h | ⟨p, rfl, hold, hnew⟩
      · rw [h]
        exact .same
      · rw [hold, hnew]
        exact .written
  | pollWorkflow _ _ _ _ _ => exact payloadChange_of_eq (pollWorkflow_payloads ..)
  | createScheduleInstance target fireAt =>
      exact createScheduleInstance_payload target fireAt e db runId
  | updateWorkflow target workflow =>
      simp only [Stmt.sql, Kagzi.updateWorkflow]
      split
      · exact payloadChange_of_eq (Db.commitRuns_payloads ..)
      · exact .same
  | deletePayload target => exact delete_payload rfl
  | deleteRun target => exact deleteRun_payload target e db runId
  | _ => first | exact payloadChange_of_eq (Db.commitRuns_payloads ..) | cases hspare

/-- Whatever a statement does to the payload of a run is in the list. -/
theorem Stmt.exec_payload (e : Env) (q : Stmt) (db : Db) (runId : Uuid) :
    PayloadChange e q (db.payload runId) ((q.exec e db).2.payload runId) := by
  rcases q.exec_cases e db with h | h
  · rw [h]
    exact .same
  · rw [h]
    exact q.sql_payload e db runId

theorem Db.runId_of_payload {p : PayloadRow} (h : db.payload runId = some p) : p.runId = runId :=
  Table.key_of_get? h

/-- Only its deletion takes a payload away. -/
theorem Stmt.exec_hasPayload (e : Env) {q : Stmt} (hq : q.deletes ≠ some runId)
    (hp : db.HasPayload runId) : (q.exec e db).2.HasPayload runId := by
  have h := q.exec_payload e db runId
  obtain ⟨p, hget⟩ := Option.isSome_iff_exists.mp hp
  have hid : p.runId = runId := Table.key_of_get? hget
  rw [show db.payload runId = some p from hget] at h
  show ((q.exec e db).2.payload runId).isSome = true
  generalize (q.exec e db).2.payload runId = new at h ⊢
  cases h with
  | deleted hdel => exact absurd (hid ▸ hdel) hq
  | _ => rfl

end Payloads

/-! ## Updates guarded by the status -/

/-- An update that succeeds reaches the run if it has the status. -/
theorem updateAt_ok {runId : Uuid} {status : WorkflowStatus} {f : Int → RunRow → RunRow} {e : Env}
    {db : Db} {hit : Bool} (hf : ∀ now r, (f now r).runId = r.runId)
    (h : (updateAt runId status f e db).1 = .ok hit) :
    (updateAt runId status f e db).2.run runId =
      (db.run runId).map fun r => if r.status = status then f e.began r else r := by
  refine (Db.commitRuns_ok (hf e.began) h runId).trans ?_
  cases hr : db.run runId with
  | none => rfl
  | some r => simp [amend, RunRow.isAt, Db.runId_of_run hr]

/-- A completion that succeeds reaches the run if it is running. -/
theorem completeRun_ok {runId : Uuid} {output : Bytes} {e : Env} {db : Db} {hit : Bool}
    (h : (completeRun runId output e db).1 = .ok hit) :
    (completeRun runId output e db).2.run runId =
      (db.run runId).map fun r => if r.status = .running then r.complete e.began else r := by
  have hamend : ∀ r, db.run runId = some r →
      amend (RunRow.isAt runId .running) (RunRow.complete e.began) r =
        if r.status = .running then r.complete e.began else r := by
    intro r hr
    simp [amend, RunRow.isAt, Db.runId_of_run hr]
  unfold completeRun at h ⊢
  dsimp only at h ⊢
  split at h
  next hany =>
    rw [if_pos hany]
    split at h
    next db' hu =>
      dsimp only
      rw [Db.run_congr (db'.withOutput_runs runId output),
        Db.updateRuns_run (f := RunRow.complete e.began) (fun _ => rfl) hu]
      cases hr : db.run runId with
      | none => rfl
      | some r => simp [hamend r hr]
    next => cases h
  next hany =>
    rw [if_neg hany]
    cases hr : db.run runId with
    | none => rfl
    | some r =>
        have hno : r.status ≠ .running := by
          intro hs
          refine hany (List.any_eq_true.mpr ⟨r, Db.mem_of_run hr, ?_⟩)
          exact (isAt_iff runId).mpr ⟨Db.runId_of_run hr, hs⟩
        simp [hno]

/-! ## Extensions -/

/-- A completion that hits finds its run running. -/
theorem completeRun_hit {runId : Uuid} {output : Bytes} {e : Env} {db : Db}
    (h : (completeRun runId output e db).1 = .ok true) :
    ∃ r, db.run runId = some r ∧ r.status = .running ∧
      (completeRun runId output e db).2.run runId = some (r.complete e.began) := by
  have hrun := completeRun_ok h
  have hany : db.runs.rows.any (RunRow.isAt runId .running) = true := by
    unfold completeRun at h
    dsimp only at h
    split at h
    next hany => exact hany
    next => cases h
  obtain ⟨r, hmem, hr⟩ := List.any_eq_true.mp hany
  obtain ⟨rfl, hs⟩ := (isAt_iff runId).mp hr
  have hget := Db.run_of_mem hmem
  exact ⟨r, hget, hs, by simpa [hget, hs] using hrun⟩

/-- A completion that does not hit changes nothing. -/
theorem completeRun_miss {runId : Uuid} {output : Bytes} {e : Env} {db : Db}
    (h : (completeRun runId output e db).1 ≠ .ok true) : (completeRun runId output e db).2 = db := by
  unfold completeRun at h ⊢
  dsimp only at h ⊢
  split
  next hany =>
    rw [if_pos hany] at h
    split
    next hu => rw [hu] at h; exact absurd rfl h
    next => rfl
  next => rfl

/-- An extension that succeeds reaches every run that its worker holds. -/
theorem extendVisibility_ok {workerId : String} {secs : Int} {e : Env} {db : Db} {n : Nat}
    (h : (extendVisibility workerId secs e db).1 = .ok n) {runId : Uuid} {r : RunRow}
    (hr : db.run runId = some r) :
    (extendVisibility workerId secs e db).2.run runId =
      some (if r.lockedBy = some workerId ∧ r.status = .running then r.extend secs e.now else r) := by
  have hrun := Db.commitRuns_ok (f := RunRow.extend secs e.now) (fun _ => rfl) h runId
  rw [hr] at hrun
  simpa [amend, extendVisibility] using hrun

theorem extendVisibility_error {workerId : String} {secs : Int} {e : Env} {db : Db}
    {x : StoreError} (h : (extendVisibility workerId secs e db).1 = .error x) :
    (extendVisibility workerId secs e db).2 = db :=
  Db.commitRuns_error h

/-! ## Reading the due templates -/

theorem Db.joined_toRunRow {db : Db} {r : RunRow} {w : WorkflowRun} (h : db.joined r = some w) :
    w.toRunRow = r := by
  unfold Db.joined at h
  obtain ⟨p, -, rfl⟩ := Option.map_eq_some_iff.mp h
  rfl

/-- A run that `find_by_id` finds is a row of the store. -/
theorem run_of_findById {runId : Uuid} {ns : String} {e : Env} {w : World} {t : WorkflowRun}
    (h : (store.exec e (.findById runId ns) w).1 = .ok (some t)) :
    w.run runId = some t.toRunRow ∧ t.runId = runId ∧ t.ns = ns := by
  rw [store_exec_fst, Stmt.exec_ok h] at h
  have hfound : ((w.db.run runId).filter fun r => r.ns = ns).bind w.db.joined = some t :=
    Except.ok.inj h
  obtain ⟨r, hr, hjoined⟩ := Option.bind_eq_some_iff.mp hfound
  obtain ⟨hrun, hns⟩ := Option.filter_eq_some_iff.mp hr
  have hrow := Db.joined_toRunRow hjoined
  refine ⟨hrow ▸ hrun, ?_, ?_⟩
  · rw [hrow]
    exact Db.runId_of_run hrun
  · rw [hrow]
    simpa using hns

/-- A run is created under an id that is free. -/
theorem free_of_createWorkflow {params : CreateWorkflow} {e : Env} {w : World} {runId : Uuid}
    (h : (store.exec e (.createWorkflow params) w).1 = .ok runId) :
    w.run params.runId = none := by
  rw [store_exec_fst, Stmt.exec_ok h] at h
  change (createWorkflow params e w.db).1 = .ok runId at h
  unfold createWorkflow Db.insertRun at h
  dsimp only at h
  cases hinsert : w.db.runs.insert? (RunRow.created params e.began) with
  | some runs => exact Table.get?_key_of_insert? hinsert
  | none =>
      rw [hinsert] at h
      split at h <;> cases h

/-- A creation that fails changes nothing. -/
theorem createWorkflow_error {params : CreateWorkflow} {e : Env} {db : Db} {x : StoreError}
    (h : ((Stmt.createWorkflow params).exec e db).1 = .error x) :
    ((Stmt.createWorkflow params).exec e db).2 = db := by
  rcases Stmt.exec_cases e (.createWorkflow params) db with hx | hx
  · rw [hx]
  · rw [hx] at h ⊢
    simp only [Stmt.sql, createWorkflow] at h ⊢
    split
    next href =>
      simp only [href, if_true] at h
      cases hi : db.insertRun (RunRow.created params e.began) (some params.input) with
      | mk res db' =>
          simp only [hi] at h ⊢
          cases res with
          | ok _ => cases h
          | error y => exact Db.insertRun_error (by rw [hi]) (by rw [hi])
    next => rfl

/-- An insertion that gives the id of the run has inserted it. -/
theorem Db.insertRun_some {db : Db} {row : RunRow} {input : Option Bytes} {runId : Uuid}
    (h : (db.insertRun row input).1 = .ok (some runId)) :
    row.runId = runId ∧ (db.insertRun row input).2.run row.runId = some row := by
  cases hi : db.runs.insert? row with
  | none => simp [Db.insertRun, hi] at h
  | some runs =>
      have hget := Table.get?_insert? hi row.runId
      rw [if_pos (show Keyed.key row = row.runId from rfl)] at hget
      cases input with
      | none => simp [Db.insertRun, hi] at h
      | some bytes =>
          cases hp : db.payloads.insert? ⟨row.runId, bytes, none⟩ with
          | none => simp [Db.insertRun, hi, hp] at h
          | some payloads =>
              simp only [Db.insertRun, hi, hp] at h ⊢
              exact ⟨Option.some.inj (Except.ok.inj h), hget⟩

/-- An insertion with a payload fails and changes nothing, or gives the id of the run. -/
theorem Db.insertRun_cases (db : Db) (row : RunRow) (bytes : Bytes) :
    (∃ x, db.insertRun row (some bytes) = (.error x, db)) ∨
      (db.insertRun row (some bytes)).1 = .ok (some row.runId) := by
  unfold Db.insertRun
  split
  next => exact .inl ⟨_, rfl⟩
  next h => cases h
  next =>
    split
    next => exact .inl ⟨_, rfl⟩
    next => exact .inr rfl

/-- A creation that succeeds has inserted the run. -/
theorem created_of_createWorkflow {params : CreateWorkflow} {e : Env} {w : World} {runId : Uuid}
    (h : (store.exec e (.createWorkflow params) w).1 = .ok runId) :
    (store.exec e (.createWorkflow params) w).2.run params.runId = some (RunRow.created params e.began) := by
  rw [store_exec_fst] at h
  rw [store_exec_run]
  have hsql := Stmt.exec_ok h
  rw [hsql] at h ⊢
  simp only [Stmt.sql, createWorkflow] at h ⊢
  split
  next href =>
    rw [if_pos href] at h
    rcases w.db.insertRun_cases (RunRow.created params e.began) params.input with ⟨x, hx⟩ | hok
    · rw [hx] at h
      cases h
    · have hrow := (Db.insertRun_some hok).2
      split
      next hi => rwa [hi] at hrow
      next hi => rwa [hi] at hrow
  next href =>
    rw [if_neg href] at h
    cases h

/-- An instance of a template with a payload is inserted with its id for the answer, or not
at all. -/
theorem createScheduleInstance_cases {templateRunId : Uuid} {db : Db} {t : RunRow} (fireAt : Int) (e : Env)
    (ht : db.run templateRunId = some t) (hpayload : db.HasPayload templateRunId) :
    ((Stmt.createScheduleInstance templateRunId fireAt).exec e db).2 = db ∨
      ((Stmt.createScheduleInstance templateRunId fireAt).exec e db).1 = .ok (some e.fresh) := by
  rcases Stmt.exec_cases e (.createScheduleInstance templateRunId fireAt) db with hx | hx
  · exact .inl (by rw [hx])
  · rw [hx]
    obtain ⟨p, hp⟩ := Option.isSome_iff_exists.mp hpayload
    simp only [Stmt.sql, createScheduleInstance, ht, hp, Option.map_some]
    split
    next => exact .inl rfl
    next =>
      rcases db.insertRun_cases (t.instanceOf e.fresh fireAt e.now) p.input with ⟨x, hx⟩ | hok
      · exact .inl (by rw [hx])
      · exact .inr hok

/-- A creation that gives a run has inserted an instance of the template. -/
theorem instance_of_createScheduleInstance {templateRunId runId : Uuid} {fireAt : Int} {e : Env} {w : World}
    (h : (store.exec e (.createScheduleInstance templateRunId fireAt) w).1 = .ok (some runId)) :
    ∃ t, w.run templateRunId = some t ∧
      (store.exec e (.createScheduleInstance templateRunId fireAt) w).2.run runId =
        some (t.instanceOf e.fresh fireAt e.now) := by
  rw [store_exec_fst] at h
  rw [store_exec_run]
  have hsql := Stmt.exec_ok h
  rw [hsql] at h ⊢
  cases ht : w.db.run templateRunId with
  | none =>
      simp only [Stmt.sql, createScheduleInstance, ht] at h
      cases h
  | some t =>
      simp only [Stmt.sql, createScheduleInstance, ht] at h ⊢
      split at h
      next => cases h
      next hfree =>
        rw [if_neg hfree]
        obtain ⟨rfl, hrow⟩ := Db.insertRun_some h
        exact ⟨t, ht, hrow⟩

/-- A deletion that fails changes nothing. -/
theorem deleteRun_error {target : Uuid} {e : Env} {db : Db} {x : StoreError}
    (h : ((Stmt.deleteRun target).exec e db).1 = .error x) :
    ((Stmt.deleteRun target).exec e db).2 = db := by
  rcases Stmt.exec_cases e (.deleteRun target) db with hx | hx
  · rw [hx]
  · rw [hx] at h ⊢
    simp only [Stmt.sql, deleteRun] at h ⊢
    split
    next => rfl
    next hsteps =>
      simp only [if_neg hsteps] at h
      split
      next => rfl
      next hu =>
        simp only [hu] at h
        cases h

/-- The run that a poll takes. -/
def Db.picked (db : Db) (ns taskQueue : String) (types : List String) (e : Env) : Option RunRow :=
  earliest (db.runs.rows.filter (RunRow.available ns taskQueue types e))

theorem Db.run_of_picked {db : Db} {ns taskQueue : String} {types : List String} {e : Env}
    {r : RunRow} (h : db.picked ns taskQueue types e = some r) :
    db.run r.runId = some r ∧ r.available ns taskQueue types e = true := by
  obtain ⟨hmem, hav⟩ := List.mem_filter.mp (mem_of_earliest h)
  exact ⟨Db.run_of_mem hmem, hav⟩

/-- A poll changes the run it takes only. -/
theorem pollWorkflow_run_of_ne {ns taskQueue workerId : String} {types : List String} {secs : Int}
    {e : Env} {db : Db} {runId : Uuid}
    (h : ∀ r, db.picked ns taskQueue types e = some r → r.runId ≠ runId) :
    ((Stmt.pollWorkflow ns taskQueue workerId types secs).exec e db).2.run runId
      = db.run runId := by
  rcases Stmt.exec_cases e (.pollWorkflow ns taskQueue workerId types secs) db with hx | hx
  · rw [hx]
  · rw [hx]
    simp only [Stmt.sql, pollWorkflow]
    split
    next => rfl
    next task htask =>
      split
      next => rfl
      next db' hu =>
        have hrun : db'.run runId = db.run runId := by
          rw [Db.updateRuns_run (f := RunRow.claim workerId secs e.now) (fun _ => rfl) hu]
          cases hr : db.run runId with
          | none => rfl
          | some r =>
              have hne : r.runId ≠ task.runId := by
                rw [Db.runId_of_run hr]
                exact (h task htask).symm
              simp [amend, hne]
        split <;> exact hrun

/-- A poll that hands out a run has claimed it. -/
theorem claimed_of_pollWorkflow {ns taskQueue workerId : String} {types : List String} {secs : Int}
    {e : Env} {db : Db} {item : ClaimedWorkflow}
    (h : ((Stmt.pollWorkflow ns taskQueue workerId types secs).exec e db).1 = .ok (some item)) :
    ∃ r, db.picked ns taskQueue types e = some r ∧ r.runId = item.runId ∧
      item.workflowType = r.workflowType ∧
      ((Stmt.pollWorkflow ns taskQueue workerId types secs).exec e db).2.run r.runId =
        some (r.claim workerId secs e.now) := by
  have hsql := Stmt.exec_ok h
  rw [hsql] at h
  rw [hsql]
  simp only [Stmt.sql, pollWorkflow] at h ⊢
  split at h
  next => cases h
  next task htask =>
    obtain ⟨hrun, -⟩ := Db.run_of_picked htask
    split at h
    next => cases h
    next db' hu =>
      have hnew := Db.updateRuns_run (f := RunRow.claim workerId secs e.now) (fun _ => rfl) hu task.runId
      rw [hrun] at hnew
      split at h
      next => cases h
      next =>
        obtain rfl := Option.some.inj (Except.ok.inj h)
        exact ⟨task, htask, rfl, rfl, by simpa [amend, htask, hu] using hnew⟩

/-- A poll hands out the run it takes. -/
theorem picked_of_pollWorkflow {ns taskQueue workerId : String} {types : List String} {secs : Int}
    {e : Env} {db : Db} {item : ClaimedWorkflow}
    (h : ((Stmt.pollWorkflow ns taskQueue workerId types secs).exec e db).1 = .ok (some item)) :
    ∃ r, db.picked ns taskQueue types e = some r ∧ r.runId = item.runId := by
  obtain ⟨r, hpicked, hid, -⟩ := claimed_of_pollWorkflow h
  exact ⟨r, hpicked, hid⟩

/-- A template of the batch is a row of the store, scheduled and due. -/
theorem mem_findDueSchedules {now : Int} {limit : Int} {e : Env} {w : World}
    {ts : List WorkflowRun}
    (h : (store.exec e (.findDueSchedules now limit) w).1 = .ok ts) {t : WorkflowRun}
    (ht : t ∈ ts) :
    w.run t.runId = some t.toRunRow ∧ t.status = .scheduled ∧ t.due now = true ∧
      w.db.HasPayload t.runId := by
  rw [store_exec_fst, Stmt.exec_ok h] at h
  change (findDueSchedules now limit e w.db).1 = .ok ts at h
  unfold findDueSchedules at h
  split at h
  next => cases h
  next =>
    obtain rfl := Except.ok.inj h
    have hmem := (List.mem_insertionSort _).mp (List.mem_of_mem_take ht)
    obtain ⟨r, hr, hj⟩ := List.mem_filterMap.mp hmem
    obtain ⟨hrow, hdue⟩ := List.mem_filter.mp hr
    obtain rfl := Db.joined_toRunRow hj
    simp only [Bool.and_eq_true, decide_eq_true_eq] at hdue
    refine ⟨Db.run_of_mem hrow, hdue.1, hdue.2, ?_⟩
    unfold Db.joined at hj
    obtain ⟨p, hp, -⟩ := Option.map_eq_some_iff.mp hj
    unfold Db.HasPayload
    rw [hp]
    rfl

/-- No template is twice in the batch. -/
theorem findDueSchedules_nodup {now : Int} {limit : Int} {e : Env} {w : World}
    {ts : List WorkflowRun} (h : (store.exec e (.findDueSchedules now limit) w).1 = .ok ts) :
    ts.Pairwise fun t t' => t.runId ≠ t'.runId := by
  rw [store_exec_fst, Stmt.exec_ok h] at h
  change (findDueSchedules now limit e w.db).1 = .ok ts at h
  unfold findDueSchedules at h
  split at h
  next => cases h
  next =>
    obtain rfl := Except.ok.inj h
    have hrows : w.db.runs.rows.Pairwise fun r r' => r.runId ≠ r'.runId :=
      w.db.runs.distinct.imp fun hne hid => hne (.inl hid)
    have hjoined : ((w.db.runs.rows.filter fun r => r.status = .scheduled && r.due now).filterMap
        w.db.joined).Pairwise fun t t' => t.runId ≠ t'.runId := by
      refine (hrows.filter _).filterMap _ fun r r' hne t ht t' ht' => ?_
      rw [Db.joined_toRunRow ht, Db.joined_toRunRow ht']
      exact hne
    have hsorted := ((List.perm_insertionSort (fun (a b : WorkflowRun) =>
      a.availableAt.getD 0 ≤ b.availableAt.getD 0) _).pairwise_iff fun hne => hne.symm).mpr hjoined
    exact hsorted.sublist (List.take_sublist _ _)

/-! ## Rows that fit -/

/-- The run and its payload, when it has one, fit into their tables. -/
def Db.Fits (db : Db) (row : RunRow) (input : Option Bytes) : Prop :=
  RunRow.Valid row ∧ (∀ x ∈ db.runs.rows, ¬ RunRow.Clash x row) ∧
    (input.isSome = true → db.payload row.runId = none)

/-- The row fits into the table in the place of the one of the same id. -/
def Db.FitsInPlace (db : Db) (row : RunRow) : Prop :=
  RunRow.Valid row ∧ ∀ x ∈ db.runs.rows, x.runId ≠ row.runId → ¬ RunRow.Clash x row

/-- An update of one run gets through when its new version fits. -/
theorem Db.updateRuns_ok_iff {db : Db} {p : RunRow → Bool} {f : RunRow → RunRow} {r : RunRow}
    (hr : db.run r.runId = some r) (hp : p r = true) (hone : ∀ x, p x = true → x.runId = r.runId)
    (hf : (f r).runId = r.runId) :
    (∃ db', db.updateRuns p f = .ok db') ↔ db.FitsInPlace (f r) := by
  have hkey := Table.update?_key_isSome_iff (f := f) hr hp hone
  unfold Db.FitsInPlace
  rw [hf]
  refine Iff.trans ?_ hkey
  unfold Db.updateRuns
  constructor
  · rintro ⟨db', h⟩
    split at h
    next runs hu => exact ⟨runs, hu⟩
    next => cases h
  · rintro ⟨runs, hu⟩
    split
    next => exact ⟨_, rfl⟩
    next hn => exact absurd (hn.symm.trans hu) (by simp)

/-- An update guarded by the status of a run succeeds when the new version of the run
fits. -/
theorem updateAt_ok_iff {runId : Uuid} {status : WorkflowStatus} {f : Int → RunRow → RunRow}
    {e : Env} {db : Db} {r : RunRow} (hf : ∀ now r, (f now r).runId = r.runId)
    (hr : db.run runId = some r) (hs : r.status = status) :
    (∃ hit, (updateAt runId status f e db).1 = .ok hit) ↔ db.FitsInPlace (f e.began r) := by
  obtain rfl := Db.runId_of_run hr
  have hone : ∀ x, RunRow.isAt r.runId status x = true → x.runId = r.runId :=
    fun x hx => ((isAt_iff r.runId).mp hx).1
  have hkey := Table.update?_key_isSome_iff (f := f e.began) hr ((isAt_iff r.runId).mpr ⟨rfl, hs⟩) hone
  rw [Db.FitsInPlace, hf]
  exact Db.commitRuns_ok_iff.trans hkey

/-! ## Runs that are gone -/

theorem Db.mem_deleted {db db' : Db} {runId : Uuid} {r : RunRow} (h : db.run runId = some r)
    (h' : db'.run runId = none) : runId ∈ db.deleted db' := by
  refine List.mem_filter.mpr ⟨List.mem_map.mpr ⟨r, Db.mem_of_run h, Db.runId_of_run h⟩, ?_⟩
  rw [h']
  rfl

/-- A run that is gone for good stays away. -/
theorem World.stays_gone {e : Env} {q : Stmt} {w : World} {runId : Uuid} (hnone : w.run runId = none)
    (hgone : runId ∈ w.retired) (hfresh : ∀ id ∈ q.newRun e, id ∉ w.retired) :
    (store.exec e q w).2.run runId = none := by
  have hc := q.exec_run e w.db runId
  rw [show w.db.run runId = none from hnone] at hc
  show (q.exec e w.db).2.run runId = none
  cases hnew : (q.exec e w.db).2.run runId with
  | none => rfl
  | some r =>
      have hid := Db.runId_of_run hnew
      rw [hnew] at hc
      cases hc with
      | created => exact absurd hgone (hfresh runId (by rw [← hid]; rfl))
      | instantiated => exact absurd hgone (hfresh runId (by rw [← hid]; rfl))

/-- The row of the run has the property, or the run is gone for good. -/
def World.Keeps (w : World) (runId : Uuid) (P : RunRow → Prop) : Prop :=
  (∃ r, w.run runId = some r ∧ P r) ∨ (w.run runId = none ∧ runId ∈ w.retired)

/-- A property that a statement does not take from a row. -/
theorem World.Keeps.exec {e : Env} {q : Stmt} {w : World} {runId : Uuid} {P : RunRow → Prop}
    (h : w.Keeps runId P) (hP : ∀ old new, P old → RunChange e q (some old) (some new) → P new)
    (hfresh : ∀ id ∈ q.newRun e, id ∉ w.retired) : (store.exec e q w).2.Keeps runId P := by
  rcases h with ⟨r, hr, hold⟩ | ⟨hnone, hgone⟩
  · have hc := q.exec_run e w.db runId
    rw [show w.db.run runId = some r from hr] at hc
    cases hnew : (q.exec e w.db).2.run runId with
    | none => exact .inr ⟨hnew, List.mem_append_right _ (Db.mem_deleted hr hnew)⟩
    | some r' =>
        rw [hnew] at hc
        exact .inl ⟨r', hnew, hP r r' hold hc⟩
  · exact .inr ⟨World.stays_gone hnone hgone hfresh, List.mem_append_left _ hgone⟩

end Kagzi
