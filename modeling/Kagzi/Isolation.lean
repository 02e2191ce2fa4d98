import Kagzi.Server.Footprint
import Kagzi.Store.RunChange
import Kagzi.Store.StepChange

/-!
# Isolation of namespaces

A request that names a run together with a namespace the run does not belong to
should leave the database as it is, and answer as if there were no such run.  The
statement compares two runs of the handler: one in the store at hand, and one in
a store without the run (`Engine.runAlone_agree`).

`get_workflow`, `cancel_workflow` and `retry_workflow` look the run up in the
namespace of the request, and keep this.  The other handlers do not read the
namespace.  `terminate_workflow` and `sleep` give themselves away by what they
do to a running run, `fail_step` by the steps of the run, and the handlers that
call `validate_workflow_action` by its existence.
-/

namespace Kagzi

open Atomic

namespace Isolation

/-! ## The requests and what is claimed of them -/

/-- The run and the namespace that a request of the workflow service or the worker
service names. -/
def named (cfg : Config) : Request → Option (Uuid × String)
  | .getWorkflow req => (cfg.parseUuid req.runId).map (·, req.ns)
  | .cancelWorkflow req => (cfg.parseUuid req.runId).map (·, req.ns)
  | .retryWorkflow req => (cfg.parseUuid req.runId).map (·, req.ns)
  | .terminateWorkflow req => (cfg.parseUuid req.runId).map (·, req.ns)
  | .beginStep req => (cfg.parseUuid req.runId).map (·, req.ns)
  | .completeStep req => (cfg.parseUuid req.runId).map (·, req.ns)
  | .failStep req => (cfg.parseUuid req.runId).map (·, req.ns)
  | .completeWorkflow req => (cfg.parseUuid req.runId).map (·, req.ns)
  | .failWorkflow req => (cfg.parseUuid req.runId).map (·, req.ns)
  | .sleep req => (cfg.parseUuid req.runId).map (·, req.ns)
  | _ => none

/-- There is no run of that id, and no step of one. -/
def Absent (w : World) (runId : Uuid) : Prop :=
  w.run runId = none ∧ ∀ s ∈ w.db.steps.rows, s.runId ≠ runId

/-- The clock of the supplies starts at the store's and does not run backwards. -/
def Timely (w : World) (sup : Nat → Env) : Prop :=
  w.now ≤ (sup 0).now ∧ ∀ n, (sup n).now ≤ (sup (n + 1)).now

/-- The request changes no table, and its answer is the one that it gets from any
store without the run. -/
def Isolated (cfg : Config) (w : World) (req : Request) (runId : Uuid) : Prop :=
  ∀ sup, Timely w sup →
    (∀ s ∈ (store.runAlone sup (handle cfg req) w).2, s.db = w.db) ∧
    ∀ w₀, Absent w₀ runId →
      (store.runAlone sup (handle cfg req) w).1 = (store.runAlone sup (handle cfg req) w₀).1

/-- The requests that name a run of another namespace are isolated from it. -/
def NamespaceIsolation (cfg : Config) : Prop :=
  ∀ (w : World) (req : Request) (runId : Uuid) (n : String) (r : RunRow),
    named cfg req = some (runId, n) → w.run runId = some r → r.ns ≠ n →
      Isolated cfg w req runId

/-- The request does not give the run away, which belongs to another namespace. -/
def Discreet (w : World) (runId : Uuid) (r : RunRow) : Request → Prop
  | .getWorkflow _ => True
  | .cancelWorkflow _ => True
  | .retryWorkflow _ => True
  | .terminateWorkflow req => req.ns = "" ∨ r.status ≠ .running
  | .sleep req =>
      (req.duration.bind WorkerService.durationSecs).getD 0 = 0 ∨ r.status ≠ .running
  | .failStep req => req.stepId = "" ∨ w.latest runId req.stepId = none
  | _ => False

/-! ## Statements that do not see the run -/

/-- The statement answers the same in both stores and changes neither. -/
def Blind (db db₀ : Db) (q : Stmt) : Prop :=
  ∀ e, ∃ a, q.exec e db = (a, db) ∧ q.exec e db₀ = (a, db₀)

/-- An answer that the statement gives in the store. -/
def Answers (db : Db) (q : Stmt) (a : q.Result) : Prop := ∃ e, a = (q.exec e db).1

/-- A program that cannot tell the stores apart. -/
def Unaware (db db₀ : Db) {ε α : Type} (p : Prog Stmt Stmt.Result ε α) (P : α → Prop) : Prop :=
  p.Within (Answers db) (Blind db db₀) P fun _ => True

section Blindness
variable {db db₀ : Db} {runId : Uuid} {ns : String} {r : RunRow}

/-- A statement that has the one answer `b` in both stores. -/
theorem unaware_sql {q : Stmt} {b : q.Ans} (h : ∀ e, q.sql e db = (.ok b, db))
    (h₀ : ∀ e, q.sql e db₀ = (.ok b, db₀)) : Unaware db db₀ (sql q) (· = b) := by
  refine within_sql (fun e => ?_) (fun a ha => ?_) fun _ _ => trivial
  · cases hq : e.fault && !q.isLocal with
    | true => exact ⟨.error .database, by simp [Stmt.exec, hq], by simp [Stmt.exec, hq]⟩
    | false => exact ⟨.ok b, by simp [Stmt.exec, hq, h], by simp [Stmt.exec, hq, h₀]⟩
  · obtain ⟨e, he⟩ := ha
    have hok : q.exec e db = q.sql e db := Stmt.exec_ok he.symm
    rw [hok, h e] at he
    exact Except.ok.inj he

theorem Unaware.call {α : Type} {f : Store α} {P : α → Prop} (h : Unaware db db₀ f P) :
    Unaware db db₀ (call f) P :=
  Prog.Within.mapError h fun _ _ => trivial

theorem commitRuns_of_misses {p : RunRow → Bool} {f : RunRow → RunRow}
    (h : ∀ r ∈ db.runs.rows, p r = false) :
    db.commitRuns p f (db.runs.rows.any p) = (.ok false, db) := by
  have hany : db.runs.rows.any p = false := by simpa using h
  rw [Db.commitRuns_miss h, hany]

/-- An update of the run in another namespace hits nothing. -/
theorem misses_of_ne (hne : ∀ r, db.run runId = some r → r.ns ≠ ns) {p : RunRow → Bool}
    (hp : ∀ r, p r = true → r.runId = runId ∧ r.ns = ns) : ∀ r ∈ db.runs.rows, p r = false := by
  intro r hr
  by_contra hpr
  obtain ⟨hid, hns⟩ := hp r (by simpa using hpr)
  exact hne r (hid ▸ Db.run_of_mem hr) hns

/-- An update of the run in another status hits nothing. -/
theorem misses_of_status {status : WorkflowStatus}
    (hne : ∀ r, db.run runId = some r → r.status ≠ status) :
    ∀ r ∈ db.runs.rows, RunRow.isAt runId status r = false := by
  intro r hr
  by_contra hpr
  obtain ⟨hid, hstatus⟩ := (isAt_iff _).mp (by simpa using hpr)
  exact hne r (hid ▸ Db.run_of_mem hr) hstatus

theorem filter_of_ne (hne : ∀ r, db.run runId = some r → r.ns ≠ ns) :
    ((db.run runId).filter fun r => r.ns = ns) = none := by
  cases hr : db.run runId with
  | none => rfl
  | some r => simp [hne r hr]

end Blindness

/-! ## What the statements find -/

section Statements
variable {db db₀ : Db} {runId : Uuid}

/-- The namespace has no such run. -/
def Hidden (db : Db) (runId : Uuid) (ns : String) : Prop :=
  ∀ r, db.run runId = some r → r.ns ≠ ns

theorem hidden_of_none {ns : String} (h : db.run runId = none) : Hidden db runId ns := by
  intro r hr
  rw [h] at hr
  cases hr

theorem unaware_findById {ns : String} (h : Hidden db runId ns) (h₀ : Hidden db₀ runId ns) :
    Unaware db db₀ (sql (.findById runId ns)) (· = none) :=
  unaware_sql (fun e => by simp [Stmt.sql, findById, filter_of_ne h])
    fun e => by simp [Stmt.sql, findById, filter_of_ne h₀]

theorem unaware_cancelRunning {ns : String} (h : Hidden db runId ns) (h₀ : Hidden db₀ runId ns) :
    Unaware db db₀ (sql (.cancelRunning runId ns)) (· = false) := by
  refine unaware_sql (fun e => commitRuns_of_misses (misses_of_ne h ?_))
    fun e => commitRuns_of_misses (misses_of_ne h₀ ?_)
  all_goals
    intro r hr
    simp only [Bool.and_eq_true, decide_eq_true_eq] at hr
    exact hr.1

theorem unaware_cancelWaiting {ns : String} (h : Hidden db runId ns) (h₀ : Hidden db₀ runId ns) :
    Unaware db db₀ (sql (.cancelWaiting runId ns)) (· = false) := by
  refine unaware_sql (fun e => commitRuns_of_misses (misses_of_ne h ?_))
    fun e => commitRuns_of_misses (misses_of_ne h₀ ?_)
  all_goals
    intro r hr
    simp only [Bool.and_eq_true, decide_eq_true_eq] at hr
    exact hr.1

theorem unaware_checkWorkflowState {ns : String} (h : Hidden db runId ns)
    (h₀ : Hidden db₀ runId ns) :
    Unaware db db₀ (sql (.checkWorkflowState runId ns)) (· = ⟨false, none, none⟩) :=
  unaware_sql (fun e => by simp [Stmt.sql, checkWorkflowState, filter_of_ne h])
    fun e => by simp [Stmt.sql, checkWorkflowState, filter_of_ne h₀]

theorem unaware_setFailed {error : String} (h : ∀ r, db.run runId = some r → r.status ≠ .running)
    (h₀ : db₀.run runId = none) :
    Unaware db db₀ (sql (.setFailed runId error)) (· = false) :=
  unaware_sql (fun _ => commitRuns_of_misses (misses_of_status h)) fun _ =>
    commitRuns_of_misses (misses_of_status fun _ hr => absurd (h₀.symm.trans hr) nofun)

theorem unaware_scheduleSleep {secs : Nat} (h : ∀ r, db.run runId = some r → r.status ≠ .running)
    (h₀ : db₀.run runId = none) :
    Unaware db db₀ (sql (.scheduleSleep runId secs)) (· = false) :=
  unaware_sql (fun _ => commitRuns_of_misses (misses_of_status h)) fun _ =>
    commitRuns_of_misses (misses_of_status fun _ hr => absurd (h₀.symm.trans hr) nofun)

theorem unaware_getRetryInfo {stepId : String} (h : db.latest runId stepId = none)
    (h₀ : db₀.run runId = none) :
    Unaware db db₀ (sql (.getRetryInfo runId stepId)) (· = none) :=
  unaware_sql (fun _ => by simp [Stmt.sql, getRetryInfo, h])
    fun _ => by simp [Stmt.sql, getRetryInfo, h₀]

theorem unaware_latestStepKind {stepId : String} (h : db.latest runId stepId = none)
    (h₀ : db₀.latest runId stepId = none) :
    Unaware db db₀ (sql (.latestStepKind runId stepId)) (· = none) :=
  unaware_sql (fun _ => by simp [Stmt.sql, latestStepKind, h])
    fun _ => by simp [Stmt.sql, latestStepKind, h₀]

end Statements

/-! ## The handlers -/

section Handlers
variable {cfg : Config} {db db₀ : Db}

theorem unaware_getWorkflow {req : GetWorkflowRequest}
    (h : ∀ runId, cfg.parseUuid req.runId = some runId →
      Hidden db runId req.ns ∧ Hidden db₀ runId req.ns) :
    Unaware db db₀ (WorkflowService.getWorkflow cfg req) fun _ => True := by
  refine within_uuid_bind (fun runId hid => ?_) fun _ => trivial
  refine within_requireNonEmpty_bind (fun _ => ?_) fun _ => trivial
  obtain ⟨hdb, hdb₀⟩ := h runId hid
  refine (unaware_findById hdb hdb₀).call.bind fun found hfound => ?_
  subst hfound
  trivial

theorem unaware_cancelWorkflow {req : CancelWorkflowRequest}
    (h : ∀ runId, cfg.parseUuid req.runId = some runId →
      Hidden db runId req.ns ∧ Hidden db₀ runId req.ns) :
    Unaware db db₀ (WorkflowService.cancelWorkflow cfg req) fun _ => True := by
  refine within_uuid_bind (fun runId hid => ?_) fun _ => trivial
  refine within_requireNonEmpty_bind (fun _ => ?_) fun _ => trivial
  obtain ⟨hdb, hdb₀⟩ := h runId hid
  have hcancel : Unaware db db₀ (WorkflowRepository.cancel runId req.ns) (· = false) := by
    refine (unaware_cancelRunning hdb hdb₀).bind fun hit hhit => ?_
    subst hhit
    exact unaware_cancelWaiting hdb hdb₀
  refine hcancel.call.bind fun hit hhit => ?_
  subst hhit
  refine (unaware_checkWorkflowState hdb hdb₀).call.bind fun found hfound => ?_
  subst hfound
  trivial

theorem unaware_retryWorkflow {req : RetryWorkflowRequest}
    (h : ∀ runId, cfg.parseUuid req.runId = some runId →
      Hidden db runId req.ns ∧ Hidden db₀ runId req.ns) :
    Unaware db db₀ (WorkflowService.retryWorkflow cfg req) fun _ => True := by
  refine within_uuid_bind (fun runId hid => ?_) fun _ => trivial
  refine within_requireNonEmpty_bind (fun _ => ?_) fun _ => trivial
  obtain ⟨hdb, hdb₀⟩ := h runId hid
  refine (unaware_findById hdb hdb₀).call.bind fun found hfound => ?_
  subst hfound
  trivial

theorem unaware_terminateWorkflow {req : TerminateWorkflowRequest}
    (h : ∀ runId, cfg.parseUuid req.runId = some runId → req.ns = "" ∨
      (∀ r, db.run runId = some r → r.status ≠ .running) ∧ db₀.run runId = none) :
    Unaware db db₀ (WorkflowService.terminateWorkflow cfg req) fun _ => True := by
  refine within_uuid_bind (fun runId hid => ?_) fun _ => trivial
  refine within_requireNonEmpty_bind (fun hne => ?_) fun _ => trivial
  obtain ⟨hdb, hdb₀⟩ := (h runId hid).resolve_left hne
  have hfail : Unaware db db₀ (WorkflowRepository.fail runId req.reason) fun _ => True :=
    (unaware_setFailed hdb hdb₀).bind fun _ _ => trivial
  exact hfail.call.bind fun _ _ => trivial

theorem unaware_sleep {req : SleepRequest}
    (h : ∀ runId, cfg.parseUuid req.runId = some runId →
      (req.duration.bind WorkerService.durationSecs).getD 0 = 0 ∨
      (∀ r, db.run runId = some r → r.status ≠ .running) ∧ db₀.run runId = none) :
    Unaware db db₀ (WorkerService.sleep cfg req) fun _ => True := by
  refine within_uuid_bind (fun runId hid => ?_) fun _ => trivial
  refine within_orFail_bind (fun duration hduration => ?_) fun _ => trivial
  refine within_orFail_bind (fun secs hsecs => ?_) fun _ => trivial
  split
  next => trivial
  next hne =>
    have hgetD : (req.duration.bind WorkerService.durationSecs).getD 0 = secs := by
      simp [hduration, hsecs]
    obtain ⟨hdb, hdb₀⟩ := (h runId hid).resolve_left (hgetD ▸ hne)
    have hsleep : Unaware db db₀ (WorkflowRepository.scheduleSleep runId secs) fun _ => True :=
      (unaware_scheduleSleep hdb hdb₀).bind fun _ _ => trivial
    exact hsleep.call.bind fun _ _ => trivial

theorem unaware_failStep {req : FailStepRequest}
    (h : ∀ runId, cfg.parseUuid req.runId = some runId → req.stepId = "" ∨
      db.latest runId req.stepId = none ∧ db₀.run runId = none ∧
        db₀.latest runId req.stepId = none) :
    Unaware db db₀ (WorkerService.failStep cfg req) fun _ => True := by
  refine within_uuid_bind (fun runId hid => ?_) fun _ => trivial
  refine within_requireNonEmpty_bind (fun hne => ?_) fun _ => trivial
  obtain ⟨hdb, hrun, hlatest⟩ := (h runId hid).resolve_left hne
  have hfail : Unaware db db₀ (StepRepository.fail (WorkerService.failStepParams runId req))
      fun _ => False := by
    refine (unaware_getRetryInfo hdb hrun).bind fun info hinfo => ?_
    subst hinfo
    refine Prog.Within.bind (P := fun _ => False) ?_ fun _ hk => hk.elim
    refine (unaware_latestStepKind hdb hlatest).bind fun kind hkind => ?_
    subst hkind
    trivial
  exact hfail.call.bind fun _ hres => hres.elim

end Handlers

/-! ## Errors about something else -/

/-- The program fails with no error that has the subject, whatever its statements
find. -/
def Spares (subject : String) {α : Type} (p : Rpc α) : Prop :=
  p.Within (fun _ a => ∀ x, a = .error x → x.isSql = true) (fun _ => True) (fun _ => True)
    fun x => x.detail.subject ≠ subject

/-- The same of a function of the store. -/
def StoreSpares (subject : String) {α : Type} (f : Store α) : Prop :=
  f.Within (fun _ a => ∀ x, a = .error x → x.isSql = true) (fun _ => True) (fun _ => True)
    fun x => (mapStoreError x).detail.subject ≠ subject

section Errors
variable {cfg : Config} {subject : String} {α β : Type}

theorem subject_of_isSql {x : StoreError} (h : x.isSql = true) :
    (mapStoreError x).detail.subject = "" := by
  cases x with
  | database => rfl
  | conflict _ => rfl
  | invalidArgument _ => rfl
  | _ => cases h

theorem StoreSpares.call {f : Store α} (h : StoreSpares subject f) : Spares subject (call f) :=
  Prog.Within.mapError h fun _ h => h

theorem StoreSpares.bind {f : Store α} {g : α → Store β} (hf : StoreSpares subject f)
    (hg : ∀ a, StoreSpares subject (g a)) : StoreSpares subject (f >>= g) :=
  Prog.Within.bind hf fun a _ => hg a

theorem Spares.bind {f : Rpc α} {g : α → Rpc β} (hf : Spares subject f)
    (hg : ∀ a, Spares subject (g a)) : Spares subject (f >>= g) :=
  Prog.Within.bind hf fun a _ => hg a

theorem spares_attempt {f : Store α} : Spares subject (f.attempt : Rpc (Except StoreError α)) :=
  (Prog.Within.attempt (Prog.within_true f)).mono (fun _ _ => trivial) fun _ h => h

/-- The result of the program on its own is no error with the subject. -/
theorem Spares.result {p : Rpc α} (hp : Spares subject p) {sup : Nat → Env} {w : World} {x : Status}
    (h : (store.runAlone sup p w).1 = .error x) : x.detail.subject ≠ subject := by
  have hans : ∀ (e : Env) (q : Stmt) (w : World) (x : StoreError), (store.exec e q w).1 = .error x →
      x.isSql = true := fun _ _ _ _ hx => Stmt.exec_isSql hx
  rcases Engine.runAlone_within hans hp sup w with ⟨a, hok, -⟩ | ⟨y, herror, hy⟩
  · rw [h] at hok
    cases hok
  · rw [h] at herror
    exact Except.error.inj herror ▸ hy

variable (hsubject : subject ≠ "")
include hsubject

theorem spares_sql (q : Stmt) : StoreSpares subject (sql q) :=
  within_sql trivial (fun _ _ => trivial) fun x hx =>
    subject_of_isSql (hx x rfl) ▸ hsubject.symm

theorem spares_validateSize (max : Nat) (bytes : Bytes) (context : String) :
    StoreSpares subject (.ofExcept (validatePayloadSize max bytes context)) := by
  refine Prog.within_ofExcept (fun _ _ => trivial) fun x hx => ?_
  unfold validatePayloadSize at hx
  split at hx
  next => exact Except.error.inj hx ▸ hsubject.symm
  next => cases hx

theorem spares_validateOptionalSize (max : Nat) (bytes : Option Bytes) (context : String) :
    StoreSpares subject (.ofExcept (validateOptionalSize max bytes context)) := by
  cases bytes with
  | none => trivial
  | some bytes => exact spares_validateSize hsubject max bytes context

theorem spares_replaceLatest (step : NewStep) :
    StoreSpares subject (StepRepository.replaceLatest step) := by
  refine (spares_sql hsubject _).bind fun hit => ?_
  cases hit with
  | true => trivial
  | false => exact spares_sql hsubject _

theorem spares_latestStepKindStrict (hstep : subject ≠ "step_run") (runId : Uuid) (stepId : String) :
    StoreSpares subject (StepRepository.latestStepKindStrict runId stepId) := by
  refine (spares_sql hsubject _).bind fun kind => ?_
  cases kind with
  | none => exact hstep.symm
  | some kind => trivial

theorem spares_begin (max : Nat) (params : BeginStepParams) :
    StoreSpares subject (StepRepository.begin max params) := by
  refine (spares_validateOptionalSize hsubject _ _ _).bind fun _ => ?_
  refine (spares_sql hsubject _).bind fun existing => ?_
  split
  next => trivial
  next =>
    refine (spares_sql hsubject _).bind fun attemptId => ?_
    exact (spares_replaceLatest hsubject _).bind fun _ => trivial

theorem spares_completeStep (hstep : subject ≠ "step_run") (max : Nat) (runId : Uuid)
    (stepId : String) (output : Bytes) :
    StoreSpares subject (StepRepository.complete max runId stepId output) := by
  refine (spares_validateSize hsubject _ _ _).bind fun _ => ?_
  refine (spares_latestStepKindStrict hsubject hstep _ _).bind fun kind => ?_
  refine (spares_sql hsubject _).bind fun hit => ?_
  split
  next => trivial
  next =>
    refine (spares_sql hsubject _).bind fun existing => ?_
    split
    next => trivial
    next =>
      refine (spares_sql hsubject _).bind fun attemptId => ?_
      exact spares_replaceLatest hsubject _

theorem spares_completeRun (max : Nat) (runId : Uuid) (output : Bytes) :
    StoreSpares subject (WorkflowRepository.complete max runId output) := by
  refine (spares_validateSize hsubject _ _ _).bind fun _ => ?_
  refine (spares_sql hsubject _).bind fun hit => ?_
  split
  next => trivial
  next => exact spares_sql hsubject _

theorem spares_failRun (runId : Uuid) (error : String) :
    StoreSpares subject (WorkflowRepository.fail runId error) :=
  (spares_sql hsubject _).bind fun _ => trivial

end Errors

/-! ## The handlers that give the run away -/

/-- A supply that stops the clock and never faults. -/
def still (now : Int) : Env := ⟨now, now, 0, [], 0, false⟩

theorem timely_still (w : World) : Timely w fun _ => still w.now :=
  ⟨Int.le_refl _, fun _ => Int.le_refl _⟩

theorem absent_empty (now : Int) (runId : Uuid) : Absent (.empty now) runId :=
  ⟨rfl, fun s hs => by cases hs⟩

section Negative
variable {cfg : Config} {w : World} {runId : Uuid} {r : RunRow} {e : Env} {α β : Type}

/-- A statement that reads: the program goes on in the same database. -/
theorem runAlone_read {q : Stmt} {a : q.Ans} {f : q.Ans → Rpc β}
    (h : q.exec e w.db = (.ok a, w.db)) :
    (store.runAlone (fun _ => e) (stmt q >>= f) w).1 =
      (store.runAlone (fun _ => e) (f a) (store.exec e q w).2).1 := by
  have hanswer : (store.exec e q w).1 = .ok a := by simp [h]
  change (store.runAlone (fun _ => e)
    ((((Prog.ofExcept (store.exec e q w).1 : Store q.Ans).mapError mapStoreError)) >>= f)
    (store.exec e q w).2).1 = _
  rw [hanswer]
  rfl

/-- In a store without the run the check fails, and says so. -/
theorem validate_absent {w₀ : World} {f : String → Rpc β} (h : w₀.run runId = none)
    (he : e.fault = false) :
    (store.runAlone (fun _ => e) (WorkerService.validateWorkflowAction cfg runId >>= f) w₀).1 =
      .error (notFoundError "Workflow not found" "workflow" (cfg.uuidText runId)) := by
  have hread : (Stmt.getNamespace runId).exec e w₀.db = (.ok none, w₀.db) := by
    have hnone : w₀.db.run runId = none := h
    simp [Stmt.exec, he, Stmt.sql, getNamespace, hnone]
  rw [WorkerService.validateWorkflowAction, Prog.bind_assoc, runAlone_read hread]
  rfl

/-- Where the run is, the handler fails with no such error. -/
theorem validate_found {f : String → Rpc β} (h : w.run runId = some r) (he : e.fault = false)
    (hf : ∀ ns, Spares "workflow" (f ns)) {x : Status}
    (hx : (store.runAlone (fun _ => e) (WorkerService.validateWorkflowAction cfg runId >>= f) w).1 =
      .error x) : x.detail.subject ≠ "workflow" := by
  have hrun : w.db.run runId = some r := h
  have hns : (Stmt.getNamespace runId).exec e w.db = (.ok (some r.ns), w.db) := by
    simp [Stmt.exec, he, Stmt.sql, getNamespace, hrun]
  have hstate : (Stmt.checkWorkflowState runId r.ns).exec e
      (store.exec e (.getNamespace runId) w).2.db =
      (.ok ⟨true, some r.status, r.lockedBy⟩, (store.exec e (.getNamespace runId) w).2.db) := by
    have hdb : (store.exec e (.getNamespace runId) w).2.db = w.db := congrArg Prod.snd hns
    rw [hdb]
    simp [Stmt.exec, he, Stmt.sql, checkWorkflowState, hrun, Option.filter]
  rw [WorkerService.validateWorkflowAction, Prog.bind_assoc, runAlone_read hns, orFail,
    Prog.ret_bind, Prog.bind_assoc, runAlone_read hstate] at hx
  refine Spares.result ?_ hx
  simp only [Bool.not_true, Bool.false_eq_true, if_false]
  split
  next => exact (by decide : "" ≠ "workflow")
  next => exact hf _

/-- A handler that begins with the check tells whether the run exists. -/
theorem not_isolated_of_validate {req : Request} {f : String → Rpc Response}
    (hprog : handle cfg req = WorkerService.validateWorkflowAction cfg runId >>= f)
    (hf : ∀ ns, Spares "workflow" (f ns)) (hr : w.run runId = some r) :
    ¬ Isolated cfg w req runId := by
  intro hiso
  obtain ⟨-, hsame⟩ := hiso _ (timely_still w)
  have hresult := hsame _ (absent_empty w.now runId)
  rw [hprog, validate_absent (absent_empty w.now runId).1 rfl] at hresult
  exact validate_found hr rfl hf hresult rfl

theorem uuid_bind {text message : String} {f : Uuid → Rpc β} (h : cfg.parseUuid text = some runId) :
    cfg.uuid text message >>= f = f runId := by
  simp [Config.uuid, h, orFail]

theorem workflow_ne : "workflow" ≠ "" := by decide

theorem not_isolated_beginStep {req : BeginStepRequest} (hid : cfg.parseUuid req.runId = some runId)
    (hr : w.run runId = some r) : ¬ Isolated cfg w (.beginStep req) runId := by
  refine not_isolated_of_validate (uuid_bind hid) (fun _ => ?_) hr
  refine (spares_sql workflow_ne _).call.bind fun policy => ?_
  refine Spares.bind (Prog.within_ofExcept (fun _ _ => trivial) fun x hx => ?_) fun kind => ?_
  · unfold WorkerService.mapProtoStepKind at hx
    split at hx
    next => cases hx
    split at hx
    next => cases hx
    split at hx
    next => cases hx
    split at hx
    next => exact Except.error.inj hx ▸ workflow_ne.symm
    next => exact Except.error.inj hx ▸ workflow_ne.symm
  · refine (spares_begin workflow_ne _ _).call.bind fun result => ?_
    refine Spares.bind ?_ fun _ => trivial
    unfold WorkerService.finishSleep
    split
    next => exact (spares_completeStep workflow_ne (by decide) _ _ _ _).call
    next => trivial

theorem not_isolated_completeStep {req : CompleteStepRequest}
    (hid : cfg.parseUuid req.runId = some runId) (hr : w.run runId = some r) :
    ¬ Isolated cfg w (.completeStep req) runId := by
  refine not_isolated_of_validate (uuid_bind hid) (fun ns => ?_) hr
  refine (spares_completeStep workflow_ne (by decide) _ _ _ _).call.bind fun _ => ?_
  refine (spares_sql workflow_ne _).call.bind fun rows => ?_
  exact within_orFail_bind (fun _ _ => trivial) fun _ => (by decide : "step" ≠ "workflow")

theorem not_isolated_completeWorkflow {req : CompleteWorkflowRequest}
    (hid : cfg.parseUuid req.runId = some runId) (hr : w.run runId = some r) :
    ¬ Isolated cfg w (.completeWorkflow req) runId := by
  refine not_isolated_of_validate (uuid_bind hid) (fun _ => ?_) hr
  refine (spares_completeRun workflow_ne _ _ _).call.bind fun _ => ?_
  exact spares_attempt.bind fun _ => trivial

theorem not_isolated_failWorkflow {req : FailWorkflowRequest}
    (hid : cfg.parseUuid req.runId = some runId) (hr : w.run runId = some r) :
    ¬ Isolated cfg w (.failWorkflow req) runId := by
  refine not_isolated_of_validate (uuid_bind hid) (fun _ => ?_) hr
  refine (spares_failRun workflow_ne _ _).call.bind fun _ => ?_
  exact spares_attempt.bind fun _ => trivial

/-- An update that would change the run gives it away. -/
theorem not_isolated_of_update {req : Request} {q : Stmt} {resp : Response}
    (hprog : handle cfg req = call (sql q >>= fun _ => .ret ()) >>= fun _ => .ret resp)
    (hchange : ∀ e, (∃ x, (q.exec e w.db).1 = .error x) ∨
      (q.exec e w.db).2.run runId ≠ w.db.run runId)
    (habsent : ∀ now, ∃ a, (q.exec (still now) Db.empty).1 = .ok a) :
    ¬ Isolated cfg w req runId := by
  intro hiso
  obtain ⟨hkept, hsame⟩ := hiso _ (timely_still w)
  have hresult := hsame _ (absent_empty w.now runId)
  have hrun : ∀ w' : World, (store.runAlone (fun _ => still w.now) (handle cfg req) w').1 =
      match (q.exec (still w.now) w'.db).1 with
      | .ok _ => .ok resp
      | .error x => .error (mapStoreError x) := by
    intro w'
    rw [hprog]
    change (store.runAlone _ (((Prog.ofExcept (q.exec (still w.now) w'.db).1 >>= fun _ =>
      Prog.ret ()).mapError mapStoreError) >>= fun _ => .ret resp) _).1 = _
    cases (q.exec (still w.now) w'.db).1 with
    | ok a => rfl
    | error x => rfl
  rcases hchange (still w.now) with ⟨x, hx⟩ | hne
  · obtain ⟨a, ha⟩ := habsent w.now
    rw [hrun, hrun, hx, show (World.empty w.now).db = Db.empty from rfl, ha] at hresult
    cases hresult
  · have hmem : (store.exec (still w.now) q w).2 ∈
        (store.runAlone (fun _ => still w.now) (handle cfg req) w).2 := by
      rw [hprog]
      exact List.mem_cons_self ..
    exact hne (congrArg (Db.run · runId) (hkept _ hmem))

/-- The update of a run that is to leave its status fails, or changes it. -/
theorem updateAt_changes {status : WorkflowStatus} {f : Int → RunRow → RunRow}
    (hid : ∀ now r, (f now r).runId = r.runId) (hf : ∀ now r, (f now r).status ≠ status)
    (hr : w.run runId = some r) (hstatus : r.status = status) :
    (∃ x, (updateAt runId status f e w.db).1 = .error x) ∨
      (updateAt runId status f e w.db).2.run runId ≠ w.db.run runId := by
  cases hres : (updateAt runId status f e w.db).1 with
  | error x => exact .inl ⟨x, rfl⟩
  | ok hit =>
      have hrun : w.db.run runId = some r := hr
      refine .inr fun h => ?_
      rw [updateAt_ok hid hres, hrun, Option.map_some, if_pos hstatus] at h
      exact hf e.began r (congrArg RunRow.status (Option.some.inj h) |>.trans hstatus)

theorem requireNonEmpty_bind {value field : String} {f : Unit → Rpc β} (h : value ≠ "") :
    requireNonEmpty value field >>= f = f () := by
  simp [requireNonEmpty, h]

theorem not_isolated_terminateWorkflow {req : TerminateWorkflowRequest}
    (hid : cfg.parseUuid req.runId = some runId) (hne : req.ns ≠ "") (hr : w.run runId = some r)
    (hstatus : r.status = .running) : ¬ Isolated cfg w (.terminateWorkflow req) runId := by
  have hprog : handle cfg (.terminateWorkflow req) =
      call (sql (.setFailed runId req.reason) >>= fun _ => .ret ()) >>= fun _ =>
        .ret (.terminateWorkflow true .failed) :=
    (uuid_bind hid).trans (requireNonEmpty_bind hne)
  refine not_isolated_of_update hprog (fun e => ?_) fun now => ⟨false, rfl⟩
  rcases (Stmt.setFailed runId req.reason).exec_cases e w.db with hx | hx
  · exact .inl ⟨_, congrArg Prod.fst hx⟩
  · rw [hx]
    exact updateAt_changes (fun _ _ => rfl) (fun _ _ => nofun) hr hstatus

theorem not_isolated_sleep {req : SleepRequest} (hid : cfg.parseUuid req.runId = some runId)
    (hne : (req.duration.bind WorkerService.durationSecs).getD 0 ≠ 0) (hr : w.run runId = some r)
    (hstatus : r.status = .running) : ¬ Isolated cfg w (.sleep req) runId := by
  obtain ⟨secs, hbind⟩ : ∃ secs, req.duration.bind WorkerService.durationSecs = some secs :=
    Option.ne_none_iff_exists'.mp fun h => hne (by rw [h]; rfl)
  obtain ⟨duration, hduration, hsecs⟩ := Option.bind_eq_some_iff.mp hbind
  have hpos : secs ≠ 0 := by simpa [hbind] using hne
  have hprog : handle cfg (.sleep req) =
      call (sql (.scheduleSleep runId secs) >>= fun _ => .ret ()) >>= fun _ => .ret .sleep := by
    refine (uuid_bind hid).trans ?_
    simp only [hduration, orFail, Prog.ret_bind, hsecs, if_neg hpos]
    rfl
  refine not_isolated_of_update hprog (fun e => ?_) fun now => ⟨false, rfl⟩
  rcases (Stmt.scheduleSleep runId secs).exec_cases e w.db with hx | hx
  · exact .inl ⟨_, congrArg Prod.fst hx⟩
  · rw [hx]
    exact updateAt_changes (fun _ _ => rfl) (fun _ _ => nofun) hr hstatus

/-! ## The steps of the run -/

theorem call_sql_bind {q : Stmt} {g : q.Ans → Store α} {f : α → Rpc β} :
    call (sql q >>= g) >>= f = stmt q >>= fun a => call (g a) >>= f := by
  unfold call stmt
  rw [Prog.mapError_bind, Prog.bind_assoc]
  rfl

/-- The rest of the failure of a step whose kind was found. -/
theorem spares_failFound {params : FailStepParams} {s : StepRow} {f : FailStepResult → Rpc Response}
    (he : e.fault = false) (hs : w.latest params.runId params.stepId = some s)
    (hf : ∀ result, Spares "step_run" (f result)) {x : Status}
    (hx : (store.runAlone (fun _ => e) (call (StepRepository.failForGood params) >>= f) w).1 =
      .error x) : x.detail.subject ≠ "step_run" := by
  have hlatest : w.db.latest params.runId params.stepId = some s := hs
  have hread : (Stmt.latestStepKind params.runId params.stepId).exec e w.db =
      (.ok (some (if s.stepKind = .sleep then .sleep else .function)), w.db) := by
    simp [Stmt.exec, he, Stmt.sql, latestStepKind, hlatest]
  have hsubject : "step_run" ≠ "" := by decide
  rw [StepRepository.failForGood, StepRepository.latestStepKindStrict, Prog.bind_assoc,
    call_sql_bind, runAlone_read hread] at hx
  refine Spares.result (StoreSpares.call ?_ |>.bind hf) hx
  refine (spares_sql hsubject _).bind fun hit => ?_
  split
  next => trivial
  next =>
    refine (spares_sql hsubject _).bind fun attemptId => ?_
    exact (spares_replaceLatest hsubject _).bind fun _ => trivial

/-- `fail_step` tells whether the run has the step. -/
theorem not_isolated_failStep {req : FailStepRequest} (hid : cfg.parseUuid req.runId = some runId)
    (hne : req.stepId ≠ "") {s : StepRow} (hr : w.run runId = some r)
    (hs : w.latest runId req.stepId = some s) : ¬ Isolated cfg w (.failStep req) runId := by
  have hsubject : "step_run" ≠ "" := by decide
  have hprog : handle cfg (.failStep req) =
      call (StepRepository.fail (WorkerService.failStepParams runId req)) >>= fun result =>
        WorkerService.scheduleRetry runId result.scheduleWorkflowRetryMs >>= fun _ =>
          .ret (.failStep result.scheduledRetry) :=
    (uuid_bind hid).trans (requireNonEmpty_bind hne)
  have hend : ∀ result : FailStepResult, Spares "step_run"
      (WorkerService.scheduleRetry runId result.scheduleWorkflowRetryMs >>= fun _ =>
        .ret (Response.failStep result.scheduledRetry)) := by
    intro result
    refine Spares.bind ?_ fun _ => trivial
    cases result.scheduleWorkflowRetryMs with
    | none => trivial
    | some delayMs =>
        have hretry : StoreSpares "step_run" (WorkflowRepository.scheduleRetry runId delayMs) :=
          (spares_sql hsubject _).bind fun _ => trivial
        exact hretry.call
  intro hiso
  obtain ⟨-, hsame⟩ := hiso _ (timely_still w)
  have hresult := hsame _ (absent_empty w.now runId)
  have hempty : (store.runAlone (fun _ => still w.now) (handle cfg (.failStep req))
      (.empty w.now)).1 = .error (mapStoreError
        (.notFound "step_run" (toString runId ++ ":" ++ req.stepId))) := by
    rw [hprog]
    rfl
  have hrun : w.db.run runId = some r := hr
  have hlatest : w.db.latest runId req.stepId = some s := hs
  have hinfo : (Stmt.getRetryInfo runId req.stepId).exec (still w.now) w.db =
      (.ok (some ⟨s.attemptNumber, readPolicy (s.retryPolicy.or r.retryPolicy)⟩), w.db) := by
    simp [Stmt.exec, still, Stmt.sql, getRetryInfo, hlatest, hrun]
  have hdb : (store.exec (still w.now) (.getRetryInfo runId req.stepId) w).2.latest runId req.stepId
      = some s := by
    simp [hinfo, hlatest]
  rw [hempty, hprog, StepRepository.fail, call_sql_bind] at hresult
  have hresult := (runAlone_read hinfo).symm.trans hresult
  dsimp only at hresult
  split at hresult
  next =>
    refine Spares.result (StoreSpares.call ?_ |>.bind hend) hresult rfl
    refine Prog.Within.bind (P := fun _ => True) ?_ fun delayMs _ => ?_
    · unfold StepRepository.retryDelayMs
      split
      next => trivial
      next => exact (spares_sql hsubject _).bind fun _ => trivial
    · exact (spares_sql hsubject _).bind fun _ => trivial
  next => exact spares_failFound rfl hdb hend hresult rfl

end Negative

/-! ## The result -/

section Result
variable {cfg : Config} {w : World} {req : Request} {runId : Uuid} {r : RunRow} {n : String}

/-- A handler that cannot tell the store from one without the run is isolated. -/
theorem isolated_of_unaware (h : ∀ w₀, Absent w₀ runId →
    Unaware w.db w₀.db (handle cfg req) fun _ => True) : Isolated cfg w req runId := by
  intro sup _
  have hagree : ∀ w₀, Absent w₀ runId →
      (store.runAlone sup (handle cfg req) w).1 = (store.runAlone sup (handle cfg req) w₀).1 ∧
        ∀ s ∈ (store.runAlone sup (handle cfg req) w).2, ∃ s' : World,
          s.db = w.db ∧ s'.db = w₀.db := by
    intro w₀ h₀
    have hans : ∀ e q (s s' : World), s.db = w.db ∧ s'.db = w₀.db →
        Answers w.db q (store.exec e q s).1 := fun e q s s' hs => ⟨e, by simp [hs.1]⟩
    have hrel : ∀ e q (s s' : World), s.db = w.db ∧ s'.db = w₀.db → Blind w.db w₀.db q →
        (store.exec e q s).1 = (store.exec e q s').1 ∧
          (store.exec e q s).2.db = w.db ∧ (store.exec e q s').2.db = w₀.db := by
      intro e q s s' hs hq
      obtain ⟨a, ha, ha₀⟩ := hq e
      simp [hs.1, hs.2, ha, ha₀]
    exact Engine.runAlone_agree hans hrel (h w₀ h₀) sup ⟨rfl, rfl⟩
  exact ⟨fun s hs => ((hagree _ (absent_empty 0 runId)).2 s hs).choose_spec.1,
    fun w₀ h₀ => (hagree w₀ h₀).1⟩

theorem named_eq {text ns : String} (h : (cfg.parseUuid text).map (·, ns) = some (runId, n)) :
    cfg.parseUuid text = some runId ∧ ns = n := by
  obtain ⟨id, hid, heq⟩ := Option.map_eq_some_iff.mp h
  obtain ⟨rfl, rfl⟩ := Prod.mk.inj heq
  exact ⟨hid, rfl⟩

theorem latest_of_absent (h : Absent w runId) (stepId : String) : w.db.latest runId stepId = none := by
  cases hs : w.db.latest runId stepId with
  | none => rfl
  | some s =>
      obtain ⟨hid, -⟩ := isLatestOf_iff.mp (Db.isLatestOf_of_latest hs)
      exact absurd hid (h.2 s (Db.mem_of_latest hs))

/-- A request that names a run of another namespace is isolated from it exactly
if it does not give the run away. -/
theorem isolated_iff_discreet (hreq : named cfg req = some (runId, n)) (hr : w.run runId = some r)
    (hns : r.ns ≠ n) : Isolated cfg w req runId ↔ Discreet w runId r req := by
  have hrun : w.db.run runId = some r := hr
  have hhidden : Hidden w.db runId n := by
    intro r' hr'
    obtain rfl := Option.some.inj (hrun.symm.trans hr')
    exact hns
  have hwaiting : r.status ≠ .running → ∀ r', w.db.run runId = some r' → r'.status ≠ .running := by
    intro hne r' hr'
    obtain rfl := Option.some.inj (hrun.symm.trans hr')
    exact hne
  have honly : ∀ {text : String} {id : Uuid}, cfg.parseUuid text = some runId →
      cfg.parseUuid text = some id → runId = id := fun h h' => Option.some.inj (h.symm.trans h')
  cases req with
  | getWorkflow req =>
      obtain ⟨hid, rfl⟩ := named_eq hreq
      refine iff_of_true (isolated_of_unaware fun w₀ h₀ => unaware_getWorkflow fun id hid' => ?_) trivial
      obtain rfl := honly hid hid'
      exact ⟨hhidden, hidden_of_none h₀.1⟩
  | cancelWorkflow req =>
      obtain ⟨hid, rfl⟩ := named_eq hreq
      refine iff_of_true (isolated_of_unaware fun w₀ h₀ =>
        unaware_cancelWorkflow fun id hid' => ?_) trivial
      obtain rfl := honly hid hid'
      exact ⟨hhidden, hidden_of_none h₀.1⟩
  | retryWorkflow req =>
      obtain ⟨hid, rfl⟩ := named_eq hreq
      refine iff_of_true (isolated_of_unaware fun w₀ h₀ =>
        unaware_retryWorkflow fun id hid' => ?_) trivial
      obtain rfl := honly hid hid'
      exact ⟨hhidden, hidden_of_none h₀.1⟩
  | terminateWorkflow req =>
      obtain ⟨hid, rfl⟩ := named_eq hreq
      constructor
      · intro hiso
        by_contra hnot
        obtain ⟨hne, hstatus⟩ := not_or.mp hnot
        exact not_isolated_terminateWorkflow hid hne hr (not_not.mp hstatus) hiso
      · refine fun h => isolated_of_unaware fun w₀ h₀ =>
          unaware_terminateWorkflow fun id hid' => ?_
        obtain rfl := honly hid hid'
        exact h.imp_right fun hne => ⟨hwaiting hne, h₀.1⟩
  | sleep req =>
      obtain ⟨hid, rfl⟩ := named_eq hreq
      constructor
      · intro hiso
        by_contra hnot
        obtain ⟨hne, hstatus⟩ := not_or.mp hnot
        exact not_isolated_sleep hid hne hr (not_not.mp hstatus) hiso
      · refine fun h => isolated_of_unaware fun w₀ h₀ => unaware_sleep fun id hid' => ?_
        obtain rfl := honly hid hid'
        exact h.imp_right fun hne => ⟨hwaiting hne, h₀.1⟩
  | failStep req =>
      obtain ⟨hid, rfl⟩ := named_eq hreq
      constructor
      · intro hiso
        by_contra hnot
        obtain ⟨hne, hlatest⟩ := not_or.mp hnot
        obtain ⟨s, hs⟩ := Option.ne_none_iff_exists'.mp hlatest
        exact not_isolated_failStep hid hne hr hs hiso
      · refine fun h => isolated_of_unaware fun w₀ h₀ => unaware_failStep fun id hid' => ?_
        obtain rfl := honly hid hid'
        exact h.imp_right fun hlatest => ⟨hlatest, h₀.1, latest_of_absent h₀ _⟩
  | beginStep req => exact iff_of_false (not_isolated_beginStep (named_eq hreq).1 hr) nofun
  | completeStep req => exact iff_of_false (not_isolated_completeStep (named_eq hreq).1 hr) nofun
  | completeWorkflow req =>
      exact iff_of_false (not_isolated_completeWorkflow (named_eq hreq).1 hr) nofun
  | failWorkflow req => exact iff_of_false (not_isolated_failWorkflow (named_eq hreq).1 hr) nofun
  | _ => cases hreq

end Result

/-! ## A run that is terminated from outside -/

/-- A worker claims a run of the namespace `ns`. -/
def claimed : World :=
  (fireAll (server .sample fun _ => True) (.init (.empty 0) [])
    ([.start (.startWorkflow ⟨"job", "queue", "type", none, "ns", "", none⟩)] ++
      runs 0 6 (.quiet 0 1) ++
      [.start (.register ⟨"ns", "queue", ["type"], "host", 7, ""⟩)] ++ runs 1 1 (.quiet 0 2) ++
      [.start (.pollTask ⟨"queue", "2", "ns", ["type"]⟩ 0)] ++ runs 2 7 (.quiet 0 3))).store

/-- The row of the run. -/
def claimedRow : RunRow where
  runId := 1
  ns := "ns"
  externalId := "job"
  taskQueue := "queue"
  workflowType := "type"
  status := .running
  lockedBy := some "2"
  attempts := 1
  createdAt := some 0
  startedAt := some 0
  finishedAt := none
  retryPolicy := none
  version := some "1"
  error := none
  availableAt := some (seconds 60)
  cronExpr := none
  scheduleId := none
  lastFiredAt := none
  maxCatchup := 50

theorem claimed_run : claimed.run 1 = some claimedRow := by decide +kernel

/-- It cannot be cancelled from another namespace. -/
theorem isolated_iff_discreet_cancelWorkflow :
    Isolated .sample claimed (.cancelWorkflow ⟨"1", "other"⟩) 1 :=
  (isolated_iff_discreet (n := "other") (by decide) claimed_run (by decide)).mpr trivial

/-- It can be terminated from there. -/
theorem terminated_from_outside : ¬ NamespaceIsolation .sample := by
  intro hiso
  obtain ⟨hkept, -⟩ := hiso claimed (.terminateWorkflow ⟨"1", "other", "stop"⟩) 1 "other" claimedRow
    (by decide) claimed_run (by decide) _ (timely_still claimed)
  have hfailed : (store.runAlone (fun _ => still claimed.now)
      (handle .sample (.terminateWorkflow ⟨"1", "other", "stop"⟩)) claimed).2.all
        (fun s => (s.run 1).any fun r => r.status = .running) = false := by
    decide +kernel
  rw [List.all_eq_false] at hfailed
  obtain ⟨s, hs, hstatus⟩ := hfailed
  have hrun : s.run 1 = some claimedRow := (congrArg (Db.run · 1) (hkept s hs)).trans claimed_run
  rw [hrun] at hstatus
  exact hstatus rfl

end Isolation

end Kagzi
