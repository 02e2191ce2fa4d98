import Kagzi.Store.Statement

/-!
# What a statement does to the latest attempt of a step

`StepChange e q old new` lists everything a statement can do to the latest
attempt of one step, and `Stmt.exec_step` says that the list is complete.  Of
the writes, only the guarded ones look at the status of the attempt they write
over.
-/

namespace Kagzi

open Relational

/-- What can become of the latest attempt of a step, in the supply `e`. -/
inductive StepChange (e : Env) : Stmt → Option StepRow → Option StepRow → Prop where
  | same {q : Stmt} {o : Option StepRow} : StepChange e q o o
  | inserted {step : NewStep} {ns : String} {n : Int} :
      StepChange e (.insertStep step) none (some (step.row ns n e.began))
  | superseded {step : NewStep} {ns : String} {n : Int} {old : StepRow} :
      StepChange e (.supersede step) (some old) (some (step.row ns n e.began))
  | completed {output : Bytes} {old : StepRow} :
      old.status = .running →
      StepChange e (.completeRunningStep old.runId old.stepId output) (some old)
        (some (old.complete output e.began))
  | failed {error : String} {old : StepRow} :
      old.status = .running →
      StepChange e (.failRunningStep old.runId old.stepId error) (some old)
        (some (old.fail error e.began))
  | failedLatest {error : String} {old : StepRow} :
      StepChange e (.failLatestStep old.runId old.stepId error) (some old)
        (some (old.fail error e.now))
  | woken {old : StepRow} :
      old.stepKind = .sleep → old.status = .running →
      StepChange e (.completePendingSleeps old.runId) (some old) (some (old.wake e.now))
  | recorded {status : StepStatus} {output : Option Bytes} {error : Option String}
      {old : StepRow} :
      StepChange e (.recordLatestStep old.runId old.stepId status output error) (some old)
        (some (old.record status output error e.began))

/-! ## Looking latest attempts up -/

theorem isLatestOf_iff {runId : Uuid} {stepId : String} {r : StepRow} :
    r.isLatestOf runId stepId = true ↔ r.runId = runId ∧ r.stepId = stepId ∧ r.isLatest = true := by
  simp [StepRow.isLatestOf, and_assoc]

theorem Db.isLatestOf_of_latest {db : Db} {runId : Uuid} {stepId : String} {r : StepRow}
    (h : db.latest runId stepId = some r) : r.isLatestOf runId stepId = true :=
  List.find?_some (p := StepRow.isLatestOf runId stepId) h

theorem Db.mem_of_latest {db : Db} {runId : Uuid} {stepId : String} {r : StepRow}
    (h : db.latest runId stepId = some r) : r ∈ db.steps.rows :=
  List.mem_of_find?_eq_some h

theorem Db.latest_congr {db db' : Db} (h : db'.steps = db.steps) (runId : Uuid)
    (stepId : String) : db'.latest runId stepId = db.latest runId stepId := by
  simp only [Db.latest, h]

/-- Two latest attempts of one step are one row. -/
theorem Db.latest_of_mem {db : Db} {runId : Uuid} {stepId : String} {r : StepRow}
    (hr : r ∈ db.steps.rows) (hl : r.isLatestOf runId stepId = true) :
    db.latest runId stepId = some r := by
  cases h : db.latest runId stepId with
  | none =>
      have := List.find?_eq_none.mp h r hr
      exact absurd hl this
  | some r' =>
      obtain ⟨h1, h2, h3⟩ := isLatestOf_iff.mp hl
      obtain ⟨h1', h2', h3'⟩ := isLatestOf_iff.mp (Db.isLatestOf_of_latest h)
      have hclash : Row.Clash r' r :=
        .inr ⟨h3', h3, h1'.trans h1.symm, h2'.trans h2.symm⟩
      rw [db.steps.eq_of_clash (Db.mem_of_latest h) hr hclash]

/-! ## Updates and insertions -/

/-- An update that keeps the columns of the index keeps the latest attempts. -/
theorem latest_update {db : Db} {steps : Table StepRow} {p : StepRow → Bool}
    {f : StepRow → StepRow} (hf : ∀ r runId stepId, (f r).isLatestOf runId stepId =
      r.isLatestOf runId stepId) (h : db.steps.update? p f = some steps) (runId : Uuid)
    (stepId : String) :
    ({ db with steps := steps } : Db).latest runId stepId =
      (db.latest runId stepId).map (amend p f) := by
  have hcomp : (StepRow.isLatestOf runId stepId) ∘ amend p f = StepRow.isLatestOf runId stepId := by
    funext r
    show (amend p f r).isLatestOf runId stepId = r.isLatestOf runId stepId
    unfold amend
    split
    · exact hf r runId stepId
    · rfl
  show steps.rows.find? (StepRow.isLatestOf runId stepId) = _
  rw [Table.update?_rows h, List.find?_map, hcomp]
  rfl

theorem Db.commitSteps_latest {α : Type} (db : Db) {p : StepRow → Bool} {f : StepRow → StepRow}
    (a : α) (hf : ∀ r runId stepId, (f r).isLatestOf runId stepId = r.isLatestOf runId stepId)
    (runId : Uuid) (stepId : String) :
    (db.commitSteps p f a).2.latest runId stepId = db.latest runId stepId ∨
      ∃ r, db.latest runId stepId = some r ∧ p r = true ∧
        (db.commitSteps p f a).2.latest runId stepId = some (f r) := by
  unfold Db.commitSteps
  split
  next steps hu =>
    rw [latest_update hf hu]
    cases hr : db.latest runId stepId with
    | none => exact .inl rfl
    | some r =>
        cases hp : p r with
        | false => exact .inl (by simp [hp])
        | true => exact .inr ⟨r, rfl, hp, by simp [hp]⟩
  next => exact .inl rfl

/-- An insertion adds the row, which clashes with no other. -/
theorem Db.insertStep_rows {db db' : Db} {step : NewStep} {now : Int}
    (h : db.insertStep step now = .ok db') :
    ∃ ns n, db'.steps.rows = db.steps.rows ++ [step.row ns n now] ∧
      ∀ r ∈ db.steps.rows, ¬ Row.Clash r (step.row ns n now) := by
  unfold Db.insertStep at h
  split at h
  next => cases h
  next run _ =>
    split at h
    next => cases h
    next steps hi =>
      obtain rfl := Except.ok.inj h
      obtain ⟨hrows, -, hfree⟩ := Table.insert?_eq_some hi
      exact ⟨_, _, hrows, hfree⟩

/-- A new attempt is the latest of its step, which had none before. -/
theorem Db.insertStep_latest {db db' : Db} {step : NewStep} {now : Int}
    (h : db.insertStep step now = .ok db') :
    db.latest step.runId step.stepId = none ∧
      ∃ ns n, db'.latest step.runId step.stepId = some (step.row ns n now) := by
  obtain ⟨ns, n, hrows, hfree⟩ := Db.insertStep_rows h
  constructor
  · cases hl : db.latest step.runId step.stepId with
    | none => rfl
    | some old =>
        obtain ⟨h1, h2, h3⟩ := isLatestOf_iff.mp (Db.isLatestOf_of_latest hl)
        exact absurd (Or.inr ⟨h3, rfl, h1, h2⟩) (hfree old (Db.mem_of_latest hl))
  · refine ⟨ns, n, Db.latest_of_mem ?_ (isLatestOf_iff.mpr ⟨rfl, rfl, rfl⟩)⟩
    rw [hrows]
    exact List.mem_append_right _ (List.mem_singleton.mpr rfl)

theorem Db.insertStep_latest_of_ne {db db' : Db} {step : NewStep} {now : Int}
    (h : db.insertStep step now = .ok db') {runId : Uuid} {stepId : String}
    (hne : ¬ (step.runId = runId ∧ step.stepId = stepId)) :
    db'.latest runId stepId = db.latest runId stepId := by
  obtain ⟨ns, n, hrows, -⟩ := Db.insertStep_rows h
  have hlat : (step.row ns n now).isLatestOf runId stepId = false := by
    rw [Bool.eq_false_iff]
    intro hl
    obtain ⟨h1, h2, -⟩ := isLatestOf_iff.mp hl
    exact hne ⟨h1, h2⟩
  show db'.steps.rows.find? (StepRow.isLatestOf runId stepId) =
    db.steps.rows.find? (StepRow.isLatestOf runId stepId)
  rw [hrows, List.find?_append]
  simp [hlat]

/-- Demotion leaves the step without a latest attempt and the other steps
alone. -/
theorem latest_demote {db : Db} {steps : Table StepRow} {target : Uuid} {targetStep : String}
    (h : db.steps.update? (StepRow.isLatestOf target targetStep) StepRow.demote = some steps)
    (runId : Uuid) (stepId : String) (hne : ¬ (target = runId ∧ targetStep = stepId)) :
    ({ db with steps := steps } : Db).latest runId stepId = db.latest runId stepId := by
  have hcomp : (StepRow.isLatestOf runId stepId) ∘
      amend (StepRow.isLatestOf target targetStep) StepRow.demote =
        StepRow.isLatestOf runId stepId := by
    funext r
    show (amend _ _ r).isLatestOf runId stepId = r.isLatestOf runId stepId
    cases hp : r.isLatestOf target targetStep with
    | false => rw [amend_of_false hp]
    | true =>
        rw [amend_of_true hp]
        obtain ⟨h1, h2, -⟩ := isLatestOf_iff.mp hp
        have hr : ¬ (r.runId = runId ∧ r.stepId = stepId) := fun hr =>
          hne ⟨h1.symm.trans hr.1, h2.symm.trans hr.2⟩
        have hr' : r.isLatestOf runId stepId = false := by
          rw [Bool.eq_false_iff]
          exact fun hl => hr ⟨(isLatestOf_iff.mp hl).1, (isLatestOf_iff.mp hl).2.1⟩
        rw [hr']
        simp [StepRow.isLatestOf, StepRow.demote]
  show steps.rows.find? (StepRow.isLatestOf runId stepId) = _
  rw [Table.update?_rows h, List.find?_map, hcomp]
  cases hl : db.latest runId stepId with
  | none => rw [show db.steps.rows.find? (StepRow.isLatestOf runId stepId) = none from hl]; rfl
  | some r =>
      rw [show db.steps.rows.find? (StepRow.isLatestOf runId stepId) = some r from hl]
      have hr := isLatestOf_iff.mp (Db.isLatestOf_of_latest hl)
      have hp : r.isLatestOf target targetStep = false := by
        rw [Bool.eq_false_iff]
        intro hp
        obtain ⟨h1, h2, -⟩ := isLatestOf_iff.mp hp
        exact hne ⟨h1.symm.trans hr.1, h2.symm.trans hr.2.1⟩
      simp [hp]

/-! ## One statement after the other -/

section Statements
variable (e : Env) (db : Db) (runId : Uuid) (stepId : String)

theorem supersede_step (step : NewStep) :
    StepChange e (.supersede step) (db.latest runId stepId)
      ((supersede step e db).2.latest runId stepId) := by
  unfold supersede
  split
  next hsome =>
    split
    next => exact .same
    next steps hu =>
      split
      next db' hi =>
        by_cases hkey : step.runId = runId ∧ step.stepId = stepId
        · obtain ⟨rfl, rfl⟩ := hkey
          obtain ⟨old, hold⟩ := Option.isSome_iff_exists.mp hsome
          obtain ⟨-, ns, n, hnew⟩ := Db.insertStep_latest hi
          rw [hold, hnew]
          exact .superseded
        · dsimp only
          rw [Db.insertStep_latest_of_ne hi hkey, latest_demote hu runId stepId hkey]
          exact .same
      next => exact .same
  next => exact .same

theorem insertStep_step (step : NewStep) :
    StepChange e (.insertStep step) (db.latest runId stepId)
      ((insertStep step e db).2.latest runId stepId) := by
  unfold insertStep
  split
  next db' hi =>
    by_cases hkey : step.runId = runId ∧ step.stepId = stepId
    · obtain ⟨rfl, rfl⟩ := hkey
      obtain ⟨hold, ns, n, hnew⟩ := Db.insertStep_latest hi
      rw [hold, hnew]
      exact .inserted
    · rw [Db.insertStep_latest_of_ne hi hkey]
      exact .same
  next => exact .same

/-- An update that keeps the columns of the index. -/
theorem commitSteps_change {q : Stmt} {α : Type} {p : StepRow → Bool} {f : StepRow → StepRow}
    (a : α) (hf : ∀ r runId stepId, (f r).isLatestOf runId stepId = r.isLatestOf runId stepId)
    (hq : ∀ r, db.latest runId stepId = some r → p r = true → StepChange e q (some r) (some (f r))) :
    StepChange e q (db.latest runId stepId) ((db.commitSteps p f a).2.latest runId stepId) := by
  rcases db.commitSteps_latest a hf runId stepId with h | ⟨r, hr, hp, h⟩
  · rw [h]
    exact .same
  · rw [h, hr]
    exact hq r hr hp

theorem isRunningOf_iff {target : Uuid} {targetStep : String} {r : StepRow} :
    r.isRunningOf target targetStep = true ↔
      r.isLatestOf target targetStep = true ∧ r.status = .running := by
  simp [StepRow.isRunningOf]

end Statements

/-! ## Writes that hit -/

/-- The latest attempt of the step has this status and output. -/
def Db.HasLatest (db : Db) (runId : Uuid) (stepId : String) (status : StepStatus)
    (output : Option Bytes) : Prop :=
  ∃ row, db.latest runId stepId = some row ∧ row.status = status ∧ row.output = output

theorem completeRunningStep_hit {runId : Uuid} {stepId : String} {output : Bytes} {e : Env} {db : Db}
    (h : (completeRunningStep runId stepId output e db).1 = .ok true) :
    (completeRunningStep runId stepId output e db).2.HasLatest runId stepId .completed
      (some output) := by
  unfold completeRunningStep Db.commitSteps at h ⊢
  dsimp only at h ⊢
  split at h
  next steps hu =>
    obtain ⟨row, hmem, hp⟩ := List.any_eq_true.mp (Except.ok.inj h)
    have hlat := Db.latest_of_mem hmem (isRunningOf_iff.mp hp).1
    refine ⟨row.complete output e.began, ?_, rfl, rfl⟩
    have hnew := latest_update (f := StepRow.complete output e.began) (fun _ _ _ => rfl) hu runId
      stepId
    rw [hlat] at hnew
    simpa [hp] using hnew
  next => cases h

theorem supersede_hit {step : NewStep} {e : Env} {db : Db}
    (h : (supersede step e db).1 = .ok true) :
    (supersede step e db).2.HasLatest step.runId step.stepId step.status step.output := by
  revert h
  unfold supersede
  split
  next =>
    split
    next => intro h; cases h
    next =>
      split
      next hi =>
        intro _
        obtain ⟨-, ns, n, hnew⟩ := Db.insertStep_latest hi
        exact ⟨_, hnew, rfl, rfl⟩
      next => intro h; cases h
  next => intro h; cases h

/-- A write that does not replace an attempt changes nothing. -/
theorem supersede_miss {step : NewStep} {e : Env} {db : Db}
    (h : (supersede step e db).1 ≠ .ok true) : (supersede step e db).2 = db := by
  revert h
  unfold supersede
  split
  next =>
    split
    next => exact fun _ => rfl
    next =>
      split
      next => exact fun h => absurd rfl h
      next => exact fun _ => rfl
  next => exact fun _ => rfl

theorem insertStep_miss {step : NewStep} {e : Env} {db : Db}
    (h : (insertStep step e db).1 ≠ .ok ()) : (insertStep step e db).2 = db := by
  revert h
  unfold insertStep
  split
  next => exact fun h => absurd rfl h
  next => exact fun _ => rfl

theorem insertStep_hit {step : NewStep} {e : Env} {db : Db}
    (h : (insertStep step e db).1 = .ok ()) :
    (insertStep step e db).2.HasLatest step.runId step.stepId step.status step.output := by
  revert h
  unfold insertStep
  split
  next hi =>
    intro _
    obtain ⟨-, ns, n, hnew⟩ := Db.insertStep_latest hi
    exact ⟨_, hnew, rfl, rfl⟩
  next => intro h; cases h

/-! ## Statements that leave the steps alone -/

theorem Db.commitRuns_steps {α : Type} (db : Db) (p : RunRow → Bool) (f : RunRow → RunRow)
    (a : α) : (db.commitRuns p f a).2.steps = db.steps := by
  unfold Db.commitRuns Db.updateRuns
  split
  next hu =>
    split at hu
    next => obtain rfl := Except.ok.inj hu; rfl
    next => cases hu
  next => rfl

theorem Db.withOutput_steps (db : Db) (runId : Uuid) (output : Bytes) :
    (db.withOutput runId output).steps = db.steps := by
  unfold Db.withOutput
  split <;> rfl

theorem Db.insertRun_steps (db : Db) (row : RunRow) (input : Option Bytes) :
    (db.insertRun row input).2.steps = db.steps := by
  unfold Db.insertRun
  split
  next => rfl
  next => rfl
  next => split <;> rfl

theorem createWorkflow_steps (params : CreateWorkflow) (e : Env) (db : Db) :
    (createWorkflow params e db).2.steps = db.steps := by
  have h := db.insertRun_steps (RunRow.created params e.began) (some params.input)
  unfold createWorkflow
  dsimp only
  split
  next =>
    split
    next hi => rwa [hi] at h
    next hi => rwa [hi] at h
  next => rfl

theorem completeRun_steps (runId : Uuid) (output : Bytes) (e : Env) (db : Db) :
    (completeRun runId output e db).2.steps = db.steps := by
  have h := Db.commitRuns_steps db (RunRow.isAt runId .running) (RunRow.complete e.began) ()
  unfold Db.commitRuns at h
  unfold completeRun
  dsimp only
  split
  next =>
    split
    next db' hu =>
      rw [hu] at h
      exact (db'.withOutput_steps runId output).trans h
    next => rfl
  next => rfl

theorem pollWorkflow_steps (ns taskQueue workerId : String) (types : List String) (secs : Int)
    (e : Env) (db : Db) : (pollWorkflow ns taskQueue workerId types secs e db).2.steps = db.steps := by
  unfold pollWorkflow
  split
  next => rfl
  next task _ =>
    have h := Db.commitRuns_steps db (fun r => decide (r.runId = task.runId))
      (RunRow.claim workerId secs e.now) ()
    unfold Db.commitRuns at h
    split
    next => rfl
    next db' hu =>
      rw [hu] at h
      split
      next => exact h
      next => exact h

theorem createScheduleInstance_steps (templateRunId : Uuid) (fireAt : Int) (e : Env) (db : Db) :
    (createScheduleInstance templateRunId fireAt e db).2.steps = db.steps := by
  unfold createScheduleInstance
  split
  next => rfl
  next =>
    split
    next => rfl
    next => exact Db.insertRun_steps ..

theorem deleteRun_steps (runId : Uuid) (e : Env) (db : Db) :
    (deleteRun runId e db).2.steps = db.steps := by
  unfold deleteRun
  split
  next => rfl
  next => split <;> rfl

theorem Db.commitWorkers_steps {α : Type} (db : Db) (p : WorkerRow → Bool)
    (f : WorkerRow → WorkerRow) (a : α) : (db.commitWorkers p f a).2.steps = db.steps := by
  unfold Db.commitWorkers
  split <;> rfl

theorem registerWorker_steps (params : RegisterWorkerParams) (e : Env) (db : Db) :
    (registerWorker params e db).2.steps = db.steps := by
  unfold registerWorker
  split
  next => exact Db.commitWorkers_steps ..
  next =>
    split
    next => split <;> rfl
    next => rfl

theorem upsertNamespace_steps (name : String) (now : Int) (e : Env) (db : Db) :
    (upsertNamespace name now e db).2.steps = db.steps := by
  unfold upsertNamespace
  split
  next => rfl
  next => split <;> rfl

theorem setNamespaceEnabled_steps (name : String) (enabled : Bool) (now : Int) (e : Env)
    (db : Db) : (setNamespaceEnabled name enabled now e db).2.steps = db.steps := by
  unfold setNamespaceEnabled
  dsimp only
  split <;> rfl

/-- The statement writes no step. -/
def Stmt.sparesSteps : Stmt → Bool
  | .supersede _ => false
  | .insertStep _ => false
  | .completeRunningStep _ _ _ => false
  | .failRunningStep _ _ _ => false
  | .failLatestStep _ _ _ => false
  | .completePendingSleeps _ => false
  | .recordLatestStep _ _ _ _ _ => false
  | _ => true

theorem Stmt.sql_sparesSteps {q : Stmt} (h : q.sparesSteps = true) (e : Env) (db : Db) :
    (q.sql e db).2.steps = db.steps := by
  cases q with
  | createWorkflow params => exact createWorkflow_steps params e db
  | checkWorkflowState id ns =>
      simp only [Stmt.sql, Kagzi.checkWorkflowState]
      split <;> rfl
  | cancelRunning _ _ => exact Db.commitRuns_steps ..
  | cancelWaiting _ _ => exact Db.commitRuns_steps ..
  | completeRun target output => exact completeRun_steps target output e db
  | setOutput target output => exact db.withOutput_steps target output
  | setFailed _ _ => exact Db.commitRuns_steps ..
  | scheduleSleep _ _ => exact Db.commitRuns_steps ..
  | scheduleRetry _ _ => exact Db.commitRuns_steps ..
  | pollWorkflow ns taskQueue workerId types secs =>
      exact pollWorkflow_steps ns taskQueue workerId types secs e db
  | extendVisibility _ _ => exact Db.commitRuns_steps ..
  | findDueSchedules now limit =>
      simp only [Stmt.sql, Kagzi.findDueSchedules]
      split <;> rfl
  | createScheduleInstance templateRunId fireAt =>
      exact createScheduleInstance_steps templateRunId fireAt e db
  | updateNextFire _ _ _ => exact Db.commitRuns_steps ..
  | updateWorkflow target workflow =>
      simp only [Stmt.sql, Kagzi.updateWorkflow]
      split
      · exact Db.commitRuns_steps ..
      · rfl
  | deleteRun target => exact deleteRun_steps target e db
  | registerWorker params => exact registerWorker_steps params e db
  | heartbeatWorker _ => exact Db.commitWorkers_steps ..
  | startDrain _ _ => exact Db.commitWorkers_steps ..
  | deregisterWorker _ _ => exact Db.commitWorkers_steps ..
  | markStaleOffline _ => exact Db.commitWorkers_steps ..
  | upsertNamespace name now => exact upsertNamespace_steps name now e db
  | setNamespaceEnabled name enabled now => exact setNamespaceEnabled_steps name enabled now e db
  | supersede _ => cases h
  | insertStep _ => cases h
  | completeRunningStep _ _ _ => cases h
  | failRunningStep _ _ _ => cases h
  | failLatestStep _ _ _ => cases h
  | completePendingSleeps _ => cases h
  | recordLatestStep _ _ _ _ _ => cases h
  | _ => rfl

/-! ## All statements -/

theorem Stmt.sql_step (e : Env) (q : Stmt) (db : Db) (runId : Uuid) (stepId : String) :
    StepChange e q (db.latest runId stepId) ((q.sql e db).2.latest runId stepId) := by
  have keeps : ∀ (f : StepRow → StepRow), (∀ r, (f r).runId = r.runId ∧ (f r).stepId = r.stepId ∧
      (f r).isLatest = r.isLatest) → ∀ (r : StepRow) (runId : Uuid) (stepId : String),
      (f r).isLatestOf runId stepId = r.isLatestOf runId stepId := by
    intro f hf r runId stepId
    obtain ⟨h1, h2, h3⟩ := hf r
    simp only [StepRow.isLatestOf, h1, h2, h3]
  cases hspare : q.sparesSteps with
  | true =>
      rw [Db.latest_congr (q.sql_sparesSteps hspare e db)]
      exact .same
  | false =>
  cases q with
  | supersede step => exact supersede_step e db runId stepId step
  | insertStep step => exact insertStep_step e db runId stepId step
  | completeRunningStep target targetStep output =>
      refine commitSteps_change e db runId stepId _ (keeps _ fun _ => ⟨rfl, rfl, rfl⟩) ?_
      intro r _ hp
      obtain ⟨hl, hs⟩ := isRunningOf_iff.mp hp
      obtain ⟨rfl, rfl, -⟩ := isLatestOf_iff.mp hl
      exact .completed hs
  | failRunningStep target targetStep error =>
      refine commitSteps_change e db runId stepId _ (keeps _ fun _ => ⟨rfl, rfl, rfl⟩) ?_
      intro r _ hp
      obtain ⟨hl, hs⟩ := isRunningOf_iff.mp hp
      obtain ⟨rfl, rfl, -⟩ := isLatestOf_iff.mp hl
      exact .failed hs
  | failLatestStep target targetStep error =>
      refine commitSteps_change e db runId stepId _ (keeps _ fun _ => ⟨rfl, rfl, rfl⟩) ?_
      intro r _ hp
      obtain ⟨rfl, rfl, -⟩ := isLatestOf_iff.mp hp
      exact .failedLatest
  | completePendingSleeps target =>
      refine commitSteps_change e db runId stepId _ (keeps _ fun _ => ⟨rfl, rfl, rfl⟩) ?_
      intro r _ hp
      simp only [Bool.and_eq_true, decide_eq_true_eq] at hp
      obtain ⟨⟨⟨rfl, hk⟩, hs⟩, -⟩ := hp
      exact .woken hk hs
  | recordLatestStep target targetStep status output error =>
      refine commitSteps_change e db runId stepId _ (keeps _ fun _ => ⟨rfl, rfl, rfl⟩) ?_
      intro r _ hp
      obtain ⟨rfl, rfl, -⟩ := isLatestOf_iff.mp hp
      exact .recorded
  | _ => cases hspare

/-- Whatever a statement does to the latest attempt of a step is in the list. -/
theorem Stmt.exec_step (e : Env) (q : Stmt) (db : Db) (runId : Uuid) (stepId : String) :
    StepChange e q (db.latest runId stepId) ((q.exec e db).2.latest runId stepId) := by
  rcases q.exec_cases e db with h | h
  · rw [h]
    exact .same
  · rw [h]
    exact q.sql_step e db runId stepId

/-! ## All attempts -/

/-- The attempts that the `UPDATE` of a statement hits, and what it sets. -/
def Stmt.stepUpdate (e : Env) : Stmt → Option ((StepRow → Bool) × (StepRow → StepRow))
  | .supersede step => some (StepRow.isLatestOf step.runId step.stepId, StepRow.demote)
  | .completeRunningStep runId stepId output =>
      some (StepRow.isRunningOf runId stepId, StepRow.complete output e.began)
  | .failRunningStep runId stepId error =>
      some (StepRow.isRunningOf runId stepId, StepRow.fail error e.began)
  | .failLatestStep runId stepId error =>
      some (StepRow.isLatestOf runId stepId, StepRow.fail error e.now)
  | .completePendingSleeps runId =>
      some (fun r => r.runId = runId && r.stepKind = .sleep && r.status = .running && r.isLatest,
        StepRow.wake e.now)
  | .recordLatestStep runId stepId status output error =>
      some (StepRow.isLatestOf runId stepId, StepRow.record status output error e.began)
  | _ => none

/-- What no update of an attempt changes. -/
structure StepRow.SameAttempt (s s' : StepRow) : Prop where
  attemptId : s.attemptId = s'.attemptId
  runId : s.runId = s'.runId
  stepId : s.stepId = s'.stepId
  stepKind : s.stepKind = s'.stepKind
  attemptNumber : s.attemptNumber = s'.attemptNumber
  input : s.input = s'.input

theorem Stmt.stepUpdate_keeps {e : Env} {q : Stmt} {p : StepRow → Bool} {f : StepRow → StepRow}
    (h : q.stepUpdate e = some (p, f)) (s : StepRow) : (f s).SameAttempt s := by
  cases q with
  | supersede _ => cases h; exact ⟨rfl, rfl, rfl, rfl, rfl, rfl⟩
  | completeRunningStep _ _ _ => cases h; exact ⟨rfl, rfl, rfl, rfl, rfl, rfl⟩
  | failRunningStep _ _ _ => cases h; exact ⟨rfl, rfl, rfl, rfl, rfl, rfl⟩
  | failLatestStep _ _ _ => cases h; exact ⟨rfl, rfl, rfl, rfl, rfl, rfl⟩
  | completePendingSleeps _ => cases h; exact ⟨rfl, rfl, rfl, rfl, rfl, rfl⟩
  | recordLatestStep _ _ _ _ _ => cases h; exact ⟨rfl, rfl, rfl, rfl, rfl, rfl⟩
  | _ => cases h

/-- The step of which a statement inserts an attempt. -/
def Stmt.inserted : Stmt → Option NewStep
  | .supersede step => some step
  | .insertStep step => some step
  | _ => none

/-- Where an attempt that is there after a statement comes from. -/
inductive Attempt (e : Env) (q : Stmt) (db : Db) : StepRow → Prop where
  | kept {s : StepRow} : s ∈ db.steps.rows → Attempt e q db s
  | updated {s : StepRow} {p : StepRow → Bool} {f : StepRow → StepRow} :
      s ∈ db.steps.rows → q.stepUpdate e = some (p, f) → p s = true → Attempt e q db (f s)
  | inserted {step : NewStep} {ns : String} {n : Int} :
      q.inserted = some step → Attempt e q db (step.row ns n e.began)

section Attempts
variable {e : Env} {q : Stmt} {db : Db} {s : StepRow}

theorem attempt_of_update {p : StepRow → Bool} {f : StepRow → StepRow} {steps : Table StepRow}
    (hq : q.stepUpdate e = some (p, f)) (hu : db.steps.update? p f = some steps)
    (hs : s ∈ steps.rows) : Attempt e q db s := by
  rw [Table.update?_rows hu] at hs
  obtain ⟨s, hmem, rfl⟩ := List.mem_map.mp hs
  cases hp : p s with
  | true =>
      rw [amend_of_true hp]
      exact .updated hmem hq hp
  | false =>
      rw [amend_of_false hp]
      exact .kept hmem

theorem attempt_of_commitSteps {α : Type} {p : StepRow → Bool} {f : StepRow → StepRow} {a : α}
    (hq : q.stepUpdate e = some (p, f)) (hs : s ∈ (db.commitSteps p f a).2.steps.rows) :
    Attempt e q db s := by
  unfold Db.commitSteps at hs
  split at hs
  next hu => exact attempt_of_update hq hu hs
  next => exact .kept hs

theorem attempt_of_insertStep {db' db'' : Db} {step : NewStep} (hq : q.inserted = some step)
    (hdb : ∀ s ∈ db'.steps.rows, Attempt e q db s) (hi : db'.insertStep step e.began = .ok db'')
    (hs : s ∈ db''.steps.rows) : Attempt e q db s := by
  obtain ⟨ns, n, hrows, -⟩ := Db.insertStep_rows hi
  rw [hrows] at hs
  rcases List.mem_append.mp hs with hs | hs
  · exact hdb s hs
  · obtain rfl := List.mem_singleton.mp hs
    exact .inserted hq

theorem Stmt.sql_attempt (hs : s ∈ (q.sql e db).2.steps.rows) : Attempt e q db s := by
  cases hspare : q.sparesSteps with
  | true =>
      rw [q.sql_sparesSteps hspare e db] at hs
      exact .kept hs
  | false =>
  cases q with
  | supersede step =>
      simp only [Stmt.sql, Kagzi.supersede] at hs
      split at hs
      next =>
        split at hs
        next => exact .kept hs
        next steps hu =>
          split at hs
          next hi => exact attempt_of_insertStep rfl (fun _ h => attempt_of_update rfl hu h) hi hs
          next => exact .kept hs
      next => exact .kept hs
  | insertStep step =>
      simp only [Stmt.sql, Kagzi.insertStep] at hs
      split at hs
      next hi => exact attempt_of_insertStep rfl (fun _ h => .kept h) hi hs
      next => exact .kept hs
  | completeRunningStep _ _ _ => exact attempt_of_commitSteps rfl hs
  | failRunningStep _ _ _ => exact attempt_of_commitSteps rfl hs
  | failLatestStep _ _ _ => exact attempt_of_commitSteps rfl hs
  | completePendingSleeps _ => exact attempt_of_commitSteps rfl hs
  | recordLatestStep _ _ _ _ _ => exact attempt_of_commitSteps rfl hs
  | _ => cases hspare

/-- Every attempt after a statement was there before, perhaps before an update of
the statement, or is the one it inserts. -/
theorem Stmt.exec_attempt (hs : s ∈ (q.exec e db).2.steps.rows) : Attempt e q db s := by
  rcases q.exec_cases e db with h | h
  · rw [h] at hs
    exact .kept hs
  · rw [h] at hs
    exact Stmt.sql_attempt hs

/-- An update keeps the rows that it does not hit. -/
theorem mem_update {p : StepRow → Bool} {f : StepRow → StepRow} {steps : Table StepRow}
    (hu : db.steps.update? p f = some steps) (hs : s ∈ db.steps.rows) (hp : p s = false) :
    s ∈ steps.rows := by
  rw [Table.update?_rows hu]
  exact List.mem_map.mpr ⟨s, hs, amend_of_false hp⟩

theorem mem_commitSteps {α : Type} {p : StepRow → Bool} {f : StepRow → StepRow} (a : α)
    (hs : s ∈ db.steps.rows) (hp : p s = false) : s ∈ (db.commitSteps p f a).2.steps.rows := by
  unfold Db.commitSteps
  split
  next hu => exact mem_update hu hs hp
  next => exact hs

theorem mem_insertStep {db' : Db} {step : NewStep} {now : Int} (hi : db.insertStep step now = .ok db')
    (hs : s ∈ db.steps.rows) : s ∈ db'.steps.rows := by
  obtain ⟨ns, n, hrows, -⟩ := Db.insertStep_rows hi
  rw [hrows]
  exact List.mem_append_left _ hs

theorem Stmt.sql_kept (hs : s ∈ db.steps.rows)
    (hmiss : ∀ p f, q.stepUpdate e = some (p, f) → p s = false) :
    s ∈ (q.sql e db).2.steps.rows := by
  cases hspare : q.sparesSteps with
  | true =>
      rw [q.sql_sparesSteps hspare e db]
      exact hs
  | false =>
  cases q with
  | supersede step =>
      simp only [Stmt.sql, Kagzi.supersede]
      split
      next =>
        split
        next => exact hs
        next steps hu =>
          split
          next hi => exact mem_insertStep hi (mem_update hu hs (hmiss _ _ rfl))
          next => exact hs
      next => exact hs
  | insertStep step =>
      simp only [Stmt.sql, Kagzi.insertStep]
      split
      next hi => exact mem_insertStep hi hs
      next => exact hs
  | completeRunningStep _ _ _ => exact mem_commitSteps _ hs (hmiss _ _ rfl)
  | failRunningStep _ _ _ => exact mem_commitSteps _ hs (hmiss _ _ rfl)
  | failLatestStep _ _ _ => exact mem_commitSteps _ hs (hmiss _ _ rfl)
  | completePendingSleeps _ => exact mem_commitSteps _ hs (hmiss _ _ rfl)
  | recordLatestStep _ _ _ _ _ => exact mem_commitSteps _ hs (hmiss _ _ rfl)
  | _ => cases hspare

/-- An attempt that the update of a statement does not hit is there after it. -/
theorem Stmt.exec_kept (hs : s ∈ db.steps.rows)
    (hmiss : ∀ p f, q.stepUpdate e = some (p, f) → p s = false) :
    s ∈ (q.exec e db).2.steps.rows := by
  rcases q.exec_cases e db with h | h
  · rw [h]
    exact hs
  · rw [h]
    exact Stmt.sql_kept hs hmiss

/-- The updates hit latest attempts only. -/
theorem Stmt.stepUpdate_latest {p : StepRow → Bool} {f : StepRow → StepRow}
    (h : q.stepUpdate e = some (p, f)) (hp : p s = true) : s.isLatest = true := by
  cases q with
  | supersede _ => cases h; exact (isLatestOf_iff.mp hp).2.2
  | completeRunningStep _ _ _ => cases h; exact (isLatestOf_iff.mp (isRunningOf_iff.mp hp).1).2.2
  | failRunningStep _ _ _ => cases h; exact (isLatestOf_iff.mp (isRunningOf_iff.mp hp).1).2.2
  | failLatestStep _ _ _ => cases h; exact (isLatestOf_iff.mp hp).2.2
  | completePendingSleeps _ => cases h; exact (Bool.and_eq_true _ _ ▸ hp).2
  | recordLatestStep _ _ _ _ _ => cases h; exact (isLatestOf_iff.mp hp).2.2
  | _ => cases h

/-! ## Insertions that get through -/

/-- An attempt is inserted exactly if its run is there, its id is new, and its step has no
latest attempt. -/
theorem Db.insertStep_ok_iff {db : Db} {step : NewStep} {now : Int} :
    (∃ db', db.insertStep step now = .ok db') ↔
      (db.run step.runId).isSome = true ∧ ∀ s ∈ db.steps.rows,
        s.attemptId ≠ step.attemptId ∧ s.isLatestOf step.runId step.stepId = false := by
  unfold Db.insertStep
  cases hrun : db.run step.runId with
  | none => simp
  | some r =>
      have hfree : (∀ s ∈ db.steps.rows, ¬ Row.Clash s
            (step.row r.ns (db.nextAttempt step.runId step.stepId) now)) ↔
          ∀ s ∈ db.steps.rows,
            s.attemptId ≠ step.attemptId ∧ s.isLatestOf step.runId step.stepId = false := by
        refine forall₂_congr fun s _ => ?_
        show ¬ (s.attemptId = step.attemptId ∨
          (s.isLatest = true ∧ true = true ∧ s.runId = step.runId ∧ s.stepId = step.stepId)) ↔ _
        rw [not_or, ← Bool.not_eq_true, isLatestOf_iff]
        exact and_congr_right fun _ => not_congr
          ⟨fun h => ⟨h.2.2.1, h.2.2.2, h.1⟩, fun h => ⟨h.2.2, rfl, h.1, h.2.1⟩⟩
      rw [← hfree, Option.isSome_some]
      have hins := Table.insert?_isSome_iff (t := db.steps)
        (r := step.row r.ns (db.nextAttempt step.runId step.stepId) now)
      dsimp only
      cases hi : db.steps.insert? (step.row r.ns (db.nextAttempt step.runId step.stepId) now) with
      | none =>
          refine ⟨fun h => by simp at h, fun h => ?_⟩
          obtain ⟨t, ht⟩ := hins.mpr ⟨trivial, h.2⟩
          rw [hi] at ht
          cases ht
      | some steps => exact ⟨fun _ => ⟨rfl, (hins.mp ⟨steps, hi⟩).2⟩, fun _ => ⟨_, rfl⟩⟩

/-- The demotion of the latest attempt of a step always gets through. -/
theorem Db.demotes (db : Db) (runId : Uuid) (stepId : String) :
    ∃ steps, db.steps.update? (StepRow.isLatestOf runId stepId) StepRow.demote = some steps ∧
      steps.rows = db.steps.rows.map (amend (StepRow.isLatestOf runId stepId) StepRow.demote) := by
  obtain ⟨steps, hu⟩ := db.steps.update?_of_mild (p := StepRow.isLatestOf runId stepId)
    (f := StepRow.demote) fun r _ _ => ⟨trivial, fun x h => h.imp_right fun h => by cases h.2.1⟩
  exact ⟨steps, hu, Table.update?_rows hu⟩

theorem amend_demote (runId : Uuid) (stepId : String) (s : StepRow) :
    (amend (StepRow.isLatestOf runId stepId) StepRow.demote s).attemptId = s.attemptId ∧
      (amend (StepRow.isLatestOf runId stepId) StepRow.demote s).isLatestOf runId stepId = false := by
  cases hs : s.isLatestOf runId stepId with
  | true =>
      rw [amend_of_true hs]
      exact ⟨rfl, by simp [StepRow.isLatestOf, StepRow.demote]⟩
  | false =>
      rw [amend_of_false hs]
      exact ⟨rfl, hs⟩

/-- A replacement gets through exactly if there is an attempt to demote, the run of the new one
is there, and its id is new. -/
theorem supersede_ok_iff {step : NewStep} {e : Env} {db : Db} :
    (supersede step e db).1 = .ok true ↔
      (db.latest step.runId step.stepId).isSome = true ∧ (db.run step.runId).isSome = true ∧
        ∀ s ∈ db.steps.rows, s.attemptId ≠ step.attemptId := by
  obtain ⟨steps, hu, hrows⟩ := db.demotes step.runId step.stepId
  have hins : (∃ db', ({ db with steps := steps } : Db).insertStep step e.began = .ok db') ↔ _ :=
    Db.insertStep_ok_iff
  have hfresh : (∀ s ∈ steps.rows,
        s.attemptId ≠ step.attemptId ∧ s.isLatestOf step.runId step.stepId = false) ↔
      ∀ s ∈ db.steps.rows, s.attemptId ≠ step.attemptId := by
    rw [hrows, List.forall_mem_map]
    exact forall₂_congr fun s _ => by simp [amend_demote]
  unfold supersede
  rw [hu]
  cases hold : (db.latest step.runId step.stepId).isSome with
  | false => simp
  | true =>
      simp only [if_true, true_and]
      rw [hfresh] at hins
      rw [show db.run step.runId = ({ db with steps := steps } : Db).run step.runId from rfl, ← hins]
      split
      next hi => simp [hi]
      next hi => simp [hi]

/-! ## The numbers of attempts -/

theorem le_foldl_max {l : List Int} {a n : Int} (h : n ≤ a ∨ n ∈ l) : n ≤ l.foldl max a := by
  induction l generalizing a with
  | nil => simpa using h
  | cons x l ih =>
      refine ih ?_
      rcases h with h | h
      · exact .inl (Int.le_trans h (Int.le_max_left _ _))
      · rcases List.mem_cons.mp h with rfl | h
        · exact .inl (Int.le_max_right _ _)
        · exact .inr h

/-- The next number is higher than those that are taken. -/
theorem Db.lt_nextAttempt {s : StepRow} (hs : s ∈ db.steps.rows) :
    s.attemptNumber < db.nextAttempt s.runId s.stepId := by
  have hle : s.attemptNumber ≤ ((db.steps.rows.filter (StepRow.ofStep s.runId s.stepId)).map
      StepRow.attemptNumber).foldl max 0 := by
    refine le_foldl_max (.inr (List.mem_map.mpr ⟨s, List.mem_filter.mpr ⟨hs, ?_⟩, rfl⟩))
    simp [StepRow.ofStep]
  unfold Db.nextAttempt
  omega

/-- An update that keeps the keys and the numbers keeps the next number. -/
theorem nextAttempt_update {steps : Table StepRow} {p : StepRow → Bool} {f : StepRow → StepRow}
    (hf : ∀ r, (f r).runId = r.runId ∧ (f r).stepId = r.stepId ∧
      (f r).attemptNumber = r.attemptNumber)
    (h : db.steps.update? p f = some steps) (runId : Uuid) (stepId : String) :
    ({ db with steps := steps } : Db).nextAttempt runId stepId = db.nextAttempt runId stepId := by
  have hkey : StepRow.ofStep runId stepId ∘ amend p f = StepRow.ofStep runId stepId := by
    funext r
    simp only [Function.comp_apply, amend]
    split
    next => simp only [StepRow.ofStep, (hf r).1, (hf r).2.1]
    next => rfl
  have hnumber : StepRow.attemptNumber ∘ amend p f = StepRow.attemptNumber := by
    funext r
    simp only [Function.comp_apply, amend]
    split
    next => exact (hf r).2.2
    next => rfl
  simp only [Db.nextAttempt, Table.update?_rows h, List.filter_map, hkey, List.map_map, hnumber]

/-- The attempt inserted takes the next number. -/
theorem Db.insertStep_next {db' : Db} {step : NewStep} {now : Int}
    (h : db.insertStep step now = .ok db') :
    db'.nextAttempt step.runId step.stepId = db.nextAttempt step.runId step.stepId + 1 ∧
      ∃ ns, db'.latest step.runId step.stepId =
        some (step.row ns (db.nextAttempt step.runId step.stepId) now) := by
  unfold Db.insertStep at h
  split at h
  next => cases h
  next run _ =>
    split at h
    next => cases h
    next steps hi =>
      obtain rfl := Except.ok.inj h
      obtain ⟨hrows, -, -⟩ := Table.insert?_eq_some hi
      constructor
      · have hof : ∀ n, (step.row run.ns n now).ofStep step.runId step.stepId = true := fun n => by
          simp [StepRow.ofStep, NewStep.row]
        have hnumber : ∀ n, (step.row run.ns n now).attemptNumber = n := fun _ => rfl
        have hfilter : ∀ n, [step.row run.ns n now].filter (StepRow.ofStep step.runId step.stepId) =
            [step.row run.ns n now] := fun n => by simp [hof]
        unfold Db.nextAttempt
        rw [hrows, List.filter_append, hfilter, List.map_append, List.foldl_append]
        simp only [List.map_cons, List.map_nil, List.foldl_cons, List.foldl_nil, hnumber,
          Db.nextAttempt]
        omega
      · refine ⟨run.ns, Db.latest_of_mem ?_ (isLatestOf_iff.mpr ⟨rfl, rfl, rfl⟩)⟩
        rw [hrows]
        exact List.mem_append_right _ (List.mem_singleton_self _)

/-- The attempts of another step. -/
theorem Db.insertStep_next_of_ne {db' : Db} {step : NewStep} {now : Int} {runId : Uuid}
    {stepId : String} (h : db.insertStep step now = .ok db')
    (hne : ¬ (step.runId = runId ∧ step.stepId = stepId)) :
    db'.nextAttempt runId stepId = db.nextAttempt runId stepId := by
  obtain ⟨ns, n, hrows, -⟩ := Db.insertStep_rows h
  have hof : (step.row ns n now).ofStep runId stepId = false := by
    rw [Bool.eq_false_iff]
    intro h
    obtain ⟨h1, h2⟩ := (Bool.and_eq_true _ _).mp h
    exact hne ⟨of_decide_eq_true h1, of_decide_eq_true h2⟩
  simp [Db.nextAttempt, hrows, hof]

/-- An insertion that replaces a latest attempt takes the next number. -/
theorem supersede_next {step : NewStep} (h : (supersede step e db).1 = .ok true) :
    (supersede step e db).2.nextAttempt step.runId step.stepId =
        db.nextAttempt step.runId step.stepId + 1 ∧
      ∃ ns, (supersede step e db).2.latest step.runId step.stepId =
        some (step.row ns (db.nextAttempt step.runId step.stepId) e.began) := by
  revert h
  unfold supersede
  split
  next =>
    split
    next => exact nofun
    next steps hu =>
      split
      next hi =>
        intro _
        have hnext := nextAttempt_update (fun _ => by exact ⟨rfl, rfl, rfl⟩) hu step.runId
          step.stepId
        obtain ⟨hsucc, ns, hlatest⟩ := Db.insertStep_next hi
        rw [hnext] at hsucc hlatest
        exact ⟨hsucc, ns, hlatest⟩
      next => exact nofun
  next => exact nofun

theorem insertStep_next {step : NewStep} (h : (insertStep step e db).1 = .ok ()) :
    (insertStep step e db).2.nextAttempt step.runId step.stepId =
        db.nextAttempt step.runId step.stepId + 1 ∧
      ∃ ns, (insertStep step e db).2.latest step.runId step.stepId =
        some (step.row ns (db.nextAttempt step.runId step.stepId) e.began) := by
  revert h
  unfold insertStep
  split
  next hi => exact fun _ => Db.insertStep_next hi
  next => exact nofun

/-- A statement keeps the next number of a step, or inserts the attempt that takes
it. -/
inductive Numbered (e : Env) (q : Stmt) (db db' : Db) (runId : Uuid) (stepId : String) : Prop where
  | kept : db'.nextAttempt runId stepId = db.nextAttempt runId stepId →
      Numbered e q db db' runId stepId
  | inserted {step : NewStep} {ns : String} : q.inserted = some step → step.runId = runId →
      step.stepId = stepId → db'.nextAttempt runId stepId = db.nextAttempt runId stepId + 1 →
      db'.latest runId stepId = some (step.row ns (db.nextAttempt runId stepId) e.began) →
      Numbered e q db db' runId stepId

theorem numbered_of_insertStep {db' db'' : Db} {step : NewStep} {runId : Uuid} {stepId : String}
    (hq : q.inserted = some step)
    (hnext : db'.nextAttempt runId stepId = db.nextAttempt runId stepId)
    (hi : db'.insertStep step e.began = .ok db'') : Numbered e q db db'' runId stepId := by
  by_cases hkey : step.runId = runId ∧ step.stepId = stepId
  · obtain ⟨rfl, rfl⟩ := hkey
    obtain ⟨hsucc, ns, hlatest⟩ := Db.insertStep_next hi
    rw [hnext] at hsucc hlatest
    exact .inserted hq rfl rfl hsucc hlatest
  · exact .kept ((Db.insertStep_next_of_ne hi hkey).trans hnext)

theorem numbered_of_commitSteps {α : Type} {p : StepRow → Bool} {f : StepRow → StepRow} (a : α)
    (hf : ∀ r, (f r).runId = r.runId ∧ (f r).stepId = r.stepId ∧
      (f r).attemptNumber = r.attemptNumber) (runId : Uuid) (stepId : String) :
    Numbered e q db (db.commitSteps p f a).2 runId stepId := by
  unfold Db.commitSteps
  split
  next hu => exact .kept (nextAttempt_update hf hu runId stepId)
  next => exact .kept rfl

theorem Stmt.sql_numbered (e : Env) (q : Stmt) (db : Db) (runId : Uuid) (stepId : String) :
    Numbered e q db (q.sql e db).2 runId stepId := by
  cases hspare : q.sparesSteps with
  | true => exact .kept (by simp only [Db.nextAttempt, q.sql_sparesSteps hspare e db])
  | false =>
  cases q with
  | supersede step =>
      simp only [Stmt.sql, Kagzi.supersede]
      split
      next =>
        split
        next => exact .kept rfl
        next steps hu =>
          split
          next hi =>
            exact numbered_of_insertStep rfl
              (nextAttempt_update (fun _ => by exact ⟨rfl, rfl, rfl⟩) hu _ _) hi
          next => exact .kept rfl
      next => exact .kept rfl
  | insertStep step =>
      simp only [Stmt.sql, Kagzi.insertStep]
      split
      next hi => exact numbered_of_insertStep rfl rfl hi
      next => exact .kept rfl
  | completeRunningStep _ _ _ => exact numbered_of_commitSteps _ (fun _ => by exact ⟨rfl, rfl, rfl⟩) _ _
  | failRunningStep _ _ _ => exact numbered_of_commitSteps _ (fun _ => by exact ⟨rfl, rfl, rfl⟩) _ _
  | failLatestStep _ _ _ => exact numbered_of_commitSteps _ (fun _ => by exact ⟨rfl, rfl, rfl⟩) _ _
  | completePendingSleeps _ => exact numbered_of_commitSteps _ (fun _ => by exact ⟨rfl, rfl, rfl⟩) _ _
  | recordLatestStep _ _ _ _ _ => exact numbered_of_commitSteps _ (fun _ => by exact ⟨rfl, rfl, rfl⟩) _ _
  | _ => cases hspare

theorem Stmt.exec_numbered (e : Env) (q : Stmt) (db : Db) (runId : Uuid) (stepId : String) :
    Numbered e q db (q.exec e db).2 runId stepId := by
  rcases q.exec_cases e db with h | h
  · rw [h]
    exact .kept rfl
  · rw [h]
    exact q.sql_numbered e db runId stepId

end Attempts

end Kagzi
