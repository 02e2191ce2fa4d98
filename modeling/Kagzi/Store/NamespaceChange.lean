import Kagzi.Store.Statement

/-!
# What a statement does to a namespace

`NamespaceChange q old new` lists everything a statement can do to the row of one namespace,
and `Stmt.exec_namespace` says that the list is complete.  No statement deletes one.
-/

namespace Kagzi

open Relational

/-- What can become of the row of a namespace. -/
inductive NamespaceChange : Stmt → Option NamespaceRow → Option NamespaceRow → Prop where
  | same {q : Stmt} {o : Option NamespaceRow} : NamespaceChange q o o
  | created {name : String} {now : Int} :
      NamespaceChange (.upsertNamespace name now) none (some ⟨name, true, now⟩)
  | touched {r : NamespaceRow} {now : Int} :
      NamespaceChange (.upsertNamespace r.name now) (some r) (some { r with updatedAt := now })
  | switched {r : NamespaceRow} {enabled : Bool} {now : Int} :
      NamespaceChange (.setNamespaceEnabled r.name enabled now) (some r)
        (some { r with enabled := enabled, updatedAt := now })

/-- The row of a namespace. -/
def Db.namespaceRow (db : Db) (name : String) : Option NamespaceRow := db.namespaces.get? name

section Lookups
variable {db : Db} {name : String} {r : NamespaceRow}

theorem Db.name_of_namespaceRow (h : db.namespaceRow name = some r) : r.name = name :=
  Table.key_of_get? h

theorem Db.namespaceRow_congr {db' : Db} (h : db'.namespaces = db.namespaces) :
    db'.namespaceRow name = db.namespaceRow name := by
  simp only [Db.namespaceRow, h]

end Lookups

/-! ## The statements on namespaces -/

section Namespaces
variable {db : Db} {name : String}

/-- An update of the namespace that is called `target`. -/
theorem namespaceChange_of_update {q : Stmt} {target : String} {f : NamespaceRow → NamespaceRow}
    {namespaces : Table NamespaceRow} (hf : ∀ r, (f r).name = r.name)
    (hu : db.namespaces.update? (fun r => r.name = target) f = some namespaces)
    (hq : ∀ r, db.namespaceRow name = some r → r.name = target →
      NamespaceChange q (some r) (some (f r))) :
    NamespaceChange q (db.namespaceRow name)
      (({ db with namespaces := namespaces } : Db).namespaceRow name) := by
  have hget : ({ db with namespaces := namespaces } : Db).namespaceRow name =
      (db.namespaceRow name).map (amend (fun r => decide (r.name = target)) f) :=
    Table.get?_update? hf hu name
  rw [hget]
  cases hr : db.namespaceRow name with
  | none => exact .same
  | some r =>
      by_cases hp : r.name = target
      · simpa [hp] using hq r hr hp
      · simpa [hp] using NamespaceChange.same

theorem upsertNamespace_namespace (e : Env) (target : String) (now : Int) :
    NamespaceChange (.upsertNamespace target now) (db.namespaceRow name)
      ((upsertNamespace target now e db).2.namespaceRow name) := by
  unfold upsertNamespace
  split
  next namespaces hi =>
    have hget : ({ db with namespaces := namespaces } : Db).namespaceRow name =
        if target = name then some ⟨target, true, now⟩ else db.namespaceRow name :=
      Table.get?_insert? hi name
    rw [hget]
    split
    next htarget =>
      have hnone : db.namespaceRow name = none := htarget ▸ Table.get?_key_of_insert? hi
      rw [hnone]
      exact .created
    next => exact .same
  next =>
    split
    next namespaces hu =>
      refine namespaceChange_of_update (f := fun r => { r with updatedAt := now }) (fun _ => rfl) hu
        fun r _ hr => ?_
      subst hr
      exact .touched
    next => exact .same

theorem setNamespaceEnabled_namespace (e : Env) (target : String) (enabled : Bool) (now : Int) :
    NamespaceChange (.setNamespaceEnabled target enabled now) (db.namespaceRow name)
      ((setNamespaceEnabled target enabled now e db).2.namespaceRow name) := by
  unfold setNamespaceEnabled
  dsimp only
  split
  next namespaces hu =>
    refine namespaceChange_of_update (f := fun r => { r with enabled := enabled, updatedAt := now })
      (fun _ => rfl) hu fun r _ hr => ?_
    subst hr
    exact .switched
  next => exact .same

end Namespaces

/-! ## The other statements -/

/-- The statement writes no namespace. -/
def Stmt.sparesNamespaces : Stmt → Bool
  | .upsertNamespace _ _ => false
  | .setNamespaceEnabled _ _ _ => false
  | _ => true

section Spared
variable {db : Db}

theorem Db.updateRuns_namespaces {db' : Db} {p : RunRow → Bool} {f : RunRow → RunRow}
    (h : db.updateRuns p f = .ok db') : db'.namespaces = db.namespaces := by
  unfold Db.updateRuns at h
  split at h
  next =>
    obtain rfl := Except.ok.inj h
    rfl
  next => cases h

theorem Db.commitRuns_namespaces {α : Type} (p : RunRow → Bool) (f : RunRow → RunRow) (a : α) :
    (db.commitRuns p f a).2.namespaces = db.namespaces := by
  unfold Db.commitRuns
  split
  next h => exact Db.updateRuns_namespaces h
  next => rfl

theorem Db.withOutput_namespaces (runId : Uuid) (output : Bytes) :
    (db.withOutput runId output).namespaces = db.namespaces := by
  unfold Db.withOutput
  split <;> rfl

theorem Db.insertRun_namespaces (row : RunRow) (input : Option Bytes) :
    (db.insertRun row input).2.namespaces = db.namespaces := by
  unfold Db.insertRun
  split
  next => rfl
  next => rfl
  next => split <;> rfl

theorem Db.commitSteps_namespaces {α : Type} (p : StepRow → Bool) (f : StepRow → StepRow) (a : α) :
    (db.commitSteps p f a).2.namespaces = db.namespaces := by
  unfold Db.commitSteps
  split <;> rfl

theorem Db.commitWorkers_namespaces {α : Type} (p : WorkerRow → Bool) (f : WorkerRow → WorkerRow)
    (a : α) : (db.commitWorkers p f a).2.namespaces = db.namespaces := by
  unfold Db.commitWorkers
  split <;> rfl

theorem Db.insertStep_namespaces {db' : Db} {step : NewStep} {now : Int}
    (h : db.insertStep step now = .ok db') : db'.namespaces = db.namespaces := by
  unfold Db.insertStep at h
  split at h
  next => cases h
  next =>
    split at h
    next => cases h
    next =>
      obtain rfl := Except.ok.inj h
      rfl

theorem supersede_namespaces (step : NewStep) (e : Env) :
    (supersede step e db).2.namespaces = db.namespaces := by
  unfold supersede
  split
  next =>
    split
    next => rfl
    next =>
      split
      next h => exact (Db.insertStep_namespaces h).trans rfl
      next => rfl
  next => rfl

theorem createWorkflow_namespaces (params : CreateWorkflow) (e : Env) :
    (createWorkflow params e db).2.namespaces = db.namespaces := by
  have h := db.insertRun_namespaces (RunRow.created params e.began) (some params.input)
  unfold createWorkflow
  dsimp only
  split
  next => split <;> next hi => rwa [hi] at h
  next => rfl

theorem registerWorker_namespaces (params : RegisterWorkerParams) (e : Env) :
    (registerWorker params e db).2.namespaces = db.namespaces := by
  unfold registerWorker
  split
  next => exact Db.commitWorkers_namespaces ..
  next =>
    split
    next => split <;> rfl
    next => rfl

theorem Stmt.sql_sparesNamespaces {q : Stmt} (h : q.sparesNamespaces = true) (e : Env) (db : Db) :
    (q.sql e db).2.namespaces = db.namespaces := by
  cases q with
  | createWorkflow params => exact createWorkflow_namespaces params e
  | checkWorkflowState id ns =>
      simp only [Stmt.sql, Kagzi.checkWorkflowState]
      split <;> rfl
  | cancelRunning _ _ => exact Db.commitRuns_namespaces ..
  | cancelWaiting _ _ => exact Db.commitRuns_namespaces ..
  | completeRun target output =>
      simp only [Stmt.sql, Kagzi.completeRun]
      split
      · split
        next hu => exact (Db.withOutput_namespaces ..).trans (Db.updateRuns_namespaces hu)
        next => rfl
      · rfl
  | setOutput target output => exact db.withOutput_namespaces target output
  | setFailed _ _ => exact Db.commitRuns_namespaces ..
  | scheduleSleep _ _ => exact Db.commitRuns_namespaces ..
  | scheduleRetry _ _ => exact Db.commitRuns_namespaces ..
  | pollWorkflow ns taskQueue workerId types secs =>
      simp only [Stmt.sql, Kagzi.pollWorkflow]
      split
      · rfl
      · split
        next => rfl
        next hu => split <;> exact Db.updateRuns_namespaces hu
  | extendVisibility _ _ => exact Db.commitRuns_namespaces ..
  | findDueSchedules now limit =>
      simp only [Stmt.sql, Kagzi.findDueSchedules]
      split <;> rfl
  | createScheduleInstance templateRunId fireAt =>
      simp only [Stmt.sql, Kagzi.createScheduleInstance]
      split
      · rfl
      · split
        · rfl
        · exact Db.insertRun_namespaces ..
  | updateNextFire _ _ _ => exact Db.commitRuns_namespaces ..
  | updateWorkflow target workflow =>
      simp only [Stmt.sql, Kagzi.updateWorkflow]
      split
      · exact Db.commitRuns_namespaces ..
      · rfl
  | deleteRun target =>
      simp only [Stmt.sql, Kagzi.deleteRun]
      split
      · rfl
      · split <;> rfl
  | supersede step => exact supersede_namespaces step e
  | insertStep step =>
      simp only [Stmt.sql, Kagzi.insertStep]
      split
      next hi => exact Db.insertStep_namespaces hi
      next => rfl
  | completeRunningStep _ _ _ => exact Db.commitSteps_namespaces ..
  | failRunningStep _ _ _ => exact Db.commitSteps_namespaces ..
  | failLatestStep _ _ _ => exact Db.commitSteps_namespaces ..
  | completePendingSleeps _ => exact Db.commitSteps_namespaces ..
  | recordLatestStep _ _ _ _ _ => exact Db.commitSteps_namespaces ..
  | registerWorker params => exact registerWorker_namespaces params e
  | heartbeatWorker _ => exact Db.commitWorkers_namespaces ..
  | startDrain _ _ => exact Db.commitWorkers_namespaces ..
  | deregisterWorker _ _ => exact Db.commitWorkers_namespaces ..
  | markStaleOffline _ => exact Db.commitWorkers_namespaces ..
  | upsertNamespace _ _ => cases h
  | setNamespaceEnabled _ _ _ => cases h
  | _ => rfl

end Spared

/-! ## All statements -/

theorem Stmt.sql_namespace (e : Env) (q : Stmt) (db : Db) (name : String) :
    NamespaceChange q (db.namespaceRow name) ((q.sql e db).2.namespaceRow name) := by
  cases hspare : q.sparesNamespaces with
  | true =>
      rw [Db.namespaceRow_congr (q.sql_sparesNamespaces hspare e db)]
      exact .same
  | false =>
  cases q with
  | upsertNamespace target now => exact upsertNamespace_namespace e target now
  | setNamespaceEnabled target enabled now =>
    exact setNamespaceEnabled_namespace e target enabled now
  | _ => cases hspare

/-- What a statement does to a namespace. -/
theorem Stmt.exec_namespace (e : Env) (q : Stmt) (db : Db) (name : String) :
    NamespaceChange q (db.namespaceRow name) ((q.exec e db).2.namespaceRow name) := by
  rcases q.exec_cases e db with h | h
  · rw [h]
    exact .same
  · rw [h]
    exact q.sql_namespace e db name

/-- A namespace that is there stays there. -/
theorem Stmt.exec_namespace_isSome {e : Env} {q : Stmt} {db : Db} {name : String}
    (h : (db.namespaceRow name).isSome = true) :
    ((q.exec e db).2.namespaceRow name).isSome = true := by
  have hc := q.exec_namespace e db name
  obtain ⟨r, hr⟩ := Option.isSome_iff_exists.mp h
  rw [hr] at hc
  generalize (q.exec e db).2.namespaceRow name = new at hc
  cases hc <;> rfl

end Kagzi
