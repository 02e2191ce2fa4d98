import Kagzi.Server.Footprint
import Kagzi.Server.Templates

/-!
# Templates are not executed

A template is a row with a cron expression, and no worker is meant to get it.  A
row that is `SCHEDULED` or `PAUSED` is safe from polls.  But
`create_workflow_schedule` inserts the template as a `PENDING` run that is due at
once, and gives it its status by an update of its own.  Between the two, and for
good when the server stops there, a poll takes the template for a run
(`template_is_executed`).

In the runs without such a poll templates stay unexecuted
(`templates_unexecuted_if_finished`).
-/

namespace Kagzi

open Atomic

namespace Unexecuted

/-- The server, for all requests. -/
abbrev service (cfg : Config) : Service Stmt Stmt.Result World Env Request Status Response :=
  server cfg fun _ => True

/-- The statement inserted the run, with a cron expression. -/
def Inserts (runId : Uuid) : Ran → Prop
  | ⟨_, _, .createWorkflow params, .ok _⟩ => params.runId = runId ∧ params.cronExpr.isSome = true
  | _ => False

/-- The statement gave the run the status of a template. -/
def Edits (runId : Uuid) : Ran → Prop
  | ⟨_, _, .updateWorkflow target _, .ok _⟩ => target = runId
  | _ => False

/-- The template was inserted, and has not been edited since. -/
def Unfinished (runId : Uuid) : List Ran → Prop
  | [] => False
  | ran :: trace => Inserts runId ran ∨ ¬ Edits runId ran ∧ Unfinished runId trace

/-- The run that the statement hands to a worker. -/
def handed : Ran → Option Uuid
  | ⟨_, _, .pollWorkflow _ _ _ _ _, .ok (some item)⟩ => some item.runId
  | _ => none

/-- No row with a cron expression can be claimed. -/
def Separate (w : World) : Prop :=
  ∀ runId r, w.run runId = some r → r.cronExpr.isSome = true → r.status.isClaimable = false

/-- No template is running, and no poll hands one out. -/
def TemplatesUnexecuted (S : Service Stmt Stmt.Result World Env Request Status Response) : Prop :=
  ∀ (w : World) (p : ServerState), Separate w → Steps S (.init w []) p →
    (∀ runId r, p.store.run runId = some r → r.cronExpr.isSome = true → r.status ≠ .running) ∧
    ∀ p' ran runId, Atomic.Step S p p' → p'.trace = ran :: p.trace → handed ran = some runId →
      ∀ r, p.store.run runId = some r → r.cronExpr = none

/-- A poll takes no template that was inserted and has not been edited since. -/
def Finished : Condition Stmt Stmt.Result World Env := fun _ e q m =>
  match q with
  | .pollWorkflow ns taskQueue _ types _ =>
      ∀ r, m.store.db.picked ns taskQueue types e = some r → ¬ Unfinished r.runId m.trace
  | _ => True

section Decisions
variable (runId : Uuid)

instance (ran : Ran) : Decidable (Inserts runId ran) := by
  unfold Inserts
  split <;> infer_instance

instance (ran : Ran) : Decidable (Edits runId ran) := by
  unfold Edits
  split <;> infer_instance

instance decUnfinished : (trace : List Ran) → Decidable (Unfinished runId trace)
  | [] => inferInstanceAs (Decidable False)
  | ran :: trace =>
      have := decUnfinished trace
      inferInstanceAs (Decidable (Inserts runId ran ∨ ¬ Edits runId ran ∧ Unfinished runId trace))

end Decisions

instance (i : Nat) (e : Env) (q : Stmt) (m : Now) : Decidable (Finished i e q m) := by
  apply Stmt.casesOn (motive := fun q => Decidable (Finished i e q m)) q
  case pollWorkflow =>
    intro ns taskQueue _ types _
    exact inferInstanceAs (Decidable (∀ r ∈ m.store.db.picked ns taskQueue types e,
      ¬ Unfinished r.runId m.trace))
  all_goals
    intros
    exact inferInstanceAs (Decidable True)

/-! ## Templates are claimable only while they are created -/

/-- An edit leaves a template. -/
def Guarded : Condition Stmt Stmt.Result World Env := fun _ _ q _ =>
  match q with
  | .updateWorkflow _ workflow => workflow.status.isScheduleTemplate = true
  | _ => True

/-- A row with a cron expression that can be claimed is one that is being
created. -/
def Tracked (m : Now) : Prop :=
  ∀ runId r, m.store.run runId = some r → r.cronExpr.isSome = true →
    r.status.isClaimable = true → r.status = .pending ∧ Unfinished runId m.trace

abbrev engine : Engine Stmt Stmt.Result World Env := store.restrict Finished

/-- A statement that does not edit the run. -/
theorem Unfinished.cons {runId : Uuid} {trace : List Ran} {ran : Ran}
    (h : Unfinished runId trace) (hran : ¬ Edits runId ran) : Unfinished runId (ran :: trace) :=
  .inr ⟨hran, h⟩

theorem edits_inv {i : Nat} {e : Env} {q : Stmt} {a : q.Result} {runId : Uuid}
    (h : Edits runId ⟨i, e, q, a⟩) : ∃ workflow, q = .updateWorkflow runId workflow := by
  cases q with
  | updateWorkflow target workflow =>
      cases a with
      | error x => exact h.elim
      | ok u =>
          obtain rfl : target = runId := h
          exact ⟨workflow, rfl⟩
  | _ => exact h.elim

/-- An edit takes a template out of the reach of polls. -/
theorem Tracked.updated {i : Nat} {e : Env} {m : Now} {runId : Uuid} {workflow r' : RunRow}
    (h : Tracked m) (hw : workflow.status.isScheduleTemplate = true)
    (hr' : (store.exec e (.updateWorkflow runId workflow) m.store).2.run runId = some r')
    (hcron : r'.cronExpr.isSome = true) (hclaim : r'.status.isClaimable = true) :
    r'.status = .pending ∧
      Unfinished runId (m.after store i e (.updateWorkflow runId workflow)).trace := by
  rw [Moment.after_trace]
  cases hres : (store.exec e (.updateWorkflow runId workflow) m.store).1 with
  | error x =>
      have hrun : m.store.run runId = some r' := by
        rw [← hr']
        exact congrArg (fun db => db.run runId) (updateWorkflow_error hres).symm
      obtain ⟨hs, hun⟩ := h runId r' hrun hcron hclaim
      exact ⟨hs, hun.cons fun hedit => hedit⟩
  | ok u =>
      rw [updateWorkflow_ok hres] at hr'
      obtain ⟨r, -, rfl⟩ := Option.map_eq_some_iff.mp hr'
      have hno : workflow.status.isClaimable = false := WorkflowStatus.template_not_claimable hw
      rw [show (RunRow.overwrite workflow r).status = workflow.status from rfl, hno] at hclaim
      cases hclaim

/-- A poll takes no template. -/
theorem Tracked.picked {m : Now} (h : Tracked m) {i : Nat} {e : Env} {ns taskQueue workerId : String}
    {types : List String} {secs : Int}
    (ha : engine.admits i e (.pollWorkflow ns taskQueue workerId types secs) m) {r : RunRow}
    (hr : m.store.db.picked ns taskQueue types e = some r) :
    m.store.run r.runId = some r ∧ r.cronExpr = none := by
  obtain ⟨hrun, hav⟩ := Db.run_of_picked hr
  simp only [RunRow.available, Bool.and_eq_true] at hav
  refine ⟨hrun, ?_⟩
  cases hcron : r.cronExpr with
  | none => rfl
  | some expr =>
      have := h r.runId r hrun (by rw [hcron]; rfl) hav.1.1.1.2
      exact absurd this.2 (ha.2 r hr)

/-- A poll hands out no template. -/
theorem Tracked.handed {m : Now} (h : Tracked m) {i : Nat} {e : Env} {q : Stmt}
    (ha : engine.admits i e q m) {runId : Uuid}
    (hhanded : Unexecuted.handed ⟨i, e, q, (store.exec e q m.store).1⟩ = some runId) :
    ∃ r, m.store.run runId = some r ∧ r.cronExpr = none := by
  cases q with
  | pollWorkflow ns taskQueue workerId types secs =>
      cases hres : (store.exec e (.pollWorkflow ns taskQueue workerId types secs) m.store).1 with
      | error x =>
          rw [hres] at hhanded
          cases hhanded
      | ok item =>
          rw [hres] at hhanded
          cases item with
          | none => cases hhanded
          | some item =>
              obtain rfl : item.runId = runId := Option.some.inj hhanded
              obtain ⟨r, hpicked, hid⟩ := picked_of_pollWorkflow hres
              obtain ⟨hrun, hcron⟩ := h.picked ha hpicked
              exact ⟨r, hid ▸ hrun, hcron⟩
  | _ => cases hhanded

theorem tracked_invariant : Invariant (engine.restrict Guarded) Tracked := by
  rintro i e q m hm ⟨ha, hguard⟩ runId r' hr' hcron hclaim
  by_cases hupdate : ∃ workflow, q = .updateWorkflow runId workflow
  · obtain ⟨workflow, rfl⟩ := hupdate
    exact hm.updated hguard hr' hcron hclaim
  · have hedits : ¬ Edits runId ⟨i, e, q, (store.exec e q m.store).1⟩ :=
      fun hedit => hupdate (edits_inv hedit)
    have hkeep : ∀ {r : RunRow}, m.store.run runId = some r → r.cronExpr.isSome = true →
        r.status.isClaimable = true → r.status = .pending ∧
          Unfinished runId (m.after store i e q).trace := by
      intro r hr hc hs
      obtain ⟨hpending, hun⟩ := hm runId r hr hc hs
      exact ⟨hpending, hun.cons hedits⟩
    have hc := q.exec_run e m.store.db runId
    have hnew : (q.exec e m.store.db).2.run runId = some r' := hr'
    rw [hnew] at hc
    have hid : r'.runId = runId := Db.runId_of_run hnew
    generalize hold : m.store.db.run runId = old at hc
    cases hc with
    | same => exact hkeep hold hcron hclaim
    | @created params =>
        have hinsert : Inserts runId ⟨i, e, .createWorkflow params,
            (store.exec e (.createWorkflow params) m.store).1⟩ := by
          cases hres : (store.exec e (.createWorkflow params) m.store).1 with
          | ok a => exact ⟨hid, hcron⟩
          | error x =>
              rw [createWorkflow_error hres, hold] at hnew
              cases hnew
        exact ⟨rfl, .inl hinsert⟩
    | instantiated => cases hcron
    | @claimed ns taskQueue workerId types secs r hav =>
        cases hp : m.store.db.picked ns taskQueue types e with
        | none =>
            rw [pollWorkflow_run_of_ne (by simp [hp])] at hnew
            exact hkeep hnew hcron hclaim
        | some task =>
            obtain ⟨hrun, hnone⟩ := hm.picked ha hp
            by_cases htask : task.runId = runId
            · rw [htask] at hrun
              obtain rfl := Option.some.inj (hrun.symm.trans hold)
              rw [show (task.claim workerId secs e.now).cronExpr = task.cronExpr from rfl, hnone]
                at hcron
              cases hcron
            · have hne : ∀ x, m.store.db.picked ns taskQueue types e = some x → x.runId ≠ runId := by
                intro x hx
                rw [hp] at hx
                rwa [← Option.some.inj hx]
              rw [pollWorkflow_run_of_ne hne] at hnew
              exact hkeep hnew hcron hclaim
    | @extended _ _ r _ hs => exact hkeep (r := r) hold hcron hclaim
    | cancelledRunning _ => cases hclaim
    | cancelledWaiting _ => cases hclaim
    | completed _ => cases hclaim
    | failed _ => cases hclaim
    | @slept _ r hs =>
        have := (hkeep hold hcron (by rw [hs]; rfl)).1
        rw [hs] at this
        cases this
    | @retried _ r hs =>
        have := (hkeep hold hcron (by rw [hs]; rfl)).1
        rw [hs] at this
        cases this
    | @nextFired _ _ r => exact hkeep (r := r) hold hcron hclaim
    | overwritten => exact absurd ⟨_, by rw [← hid]; rfl⟩ hupdate
    | @orphaned _ r _ _ => exact hkeep (r := r) hold hcron hclaim

theorem serves (cfg : Config) :
    Serves ((service cfg).restrict Finished) Guarded Tracked (fun _ _ _ _ => True)
      (fun _ _ _ _ => True) := by
  refine serves_of_may rfl tracked_invariant fun req _ q hq i e m _ _ => ?_
  cases q with
  | updateWorkflow runId workflow => exact hq.2.1
  | _ => trivial

/-- Templates are not executed in the runs in which no poll takes one that is still
being created. -/
theorem templates_unexecuted_if_finished (cfg : Config) :
    TemplatesUnexecuted ((service cfg).restrict Finished) := by
  intro w p hw h
  have hstart : Tracked ⟨w, []⟩ := by
    intro runId r hr hcron hclaim
    rw [hw runId r hr hcron] at hclaim
    cases hclaim
  have htracked := (h.sound (serves cfg) tracked_invariant hstart (sound_nil w)).1.invariant
    tracked_invariant hstart
  refine ⟨fun runId r hr hcron hs => ?_, fun p' ran runId hstep htrace hhanded r hr => ?_⟩
  · have := (htracked runId r hr hcron (by rw [hs]; rfl)).1
    rw [hs] at this
    cases this
  · cases hstep with
    | start _ =>
        have := congrArg List.length htrace
        simp at this
    | @exec m cs i e req q k hget ha =>
        obtain ⟨rfl, -⟩ := List.cons.inj htrace
        obtain ⟨r', hr', hcron⟩ := htracked.handed ha hhanded
        rwa [← Option.some.inj (hr'.symm.trans hr)]

/-! ## A template beside a run -/

/-- A schedule is created, a run of the same type is started, and a worker polls. -/
def scheduledAndStarted : ServerState :=
  fireAll ((service .sample).restrict Finished) (.init (.empty 0) []) <|
    createTenSeconds none ++
      [.start (.startWorkflow ⟨"job", "queue", "type", none, "ns", "", none⟩)] ++
      runs 1 4 (.quiet 1 2) ++
      [.start (.register ⟨"ns", "queue", ["type"], "host", 7, ""⟩)] ++ runs 2 1 (.quiet 1 3) ++
      [.start (.pollTask ⟨"queue", "3", "ns", ["type"]⟩ 0)] ++ runs 3 2 (.quiet 2 4)

/-- The worker gets the run, and the template stays. -/
theorem templates_unexecuted_if_finished_scheduledAndStarted :
    scheduledAndStarted.trace.head?.bind handed = some 2 ∧
      ∃ r, scheduledAndStarted.store.run 1 = some r ∧ r.cronExpr.isSome = true ∧
        r.status ≠ .running := by
  have hsteps : Steps ((service .sample).restrict Finished) (.init (.empty 0) [])
      scheduledAndStarted := AllEnabled.steps (by decide +kernel)
  have hempty : Separate (.empty 0) := fun runId r hr => by cases hr
  have hcron : (scheduledAndStarted.store.run 1).map (fun r => r.cronExpr.isSome) = some true := by
    decide +kernel
  obtain ⟨r, hr, hcron⟩ := Option.map_eq_some_iff.mp hcron
  exact ⟨by decide +kernel, r, hr, hcron,
    (templates_unexecuted_if_finished .sample _ _ hempty hsteps).1 1 r hr hcron⟩

/-! ## A template that is executed -/

/-- A worker polls after the first write of a `CreateWorkflowSchedule`. -/
def pollMeanwhile : List (Action Env Request) :=
  [.start (.createWorkflowSchedule ⟨"ns", "s", "queue", "type", "*/10 * * * * *", none, none,
      none, none⟩)] ++ runs 0 7 (.quiet 0 1) ++
    [.start (.register ⟨"ns", "queue", ["type"], "host", 7, ""⟩)] ++ runs 1 1 (.quiet 0 2) ++
    [.start (.pollTask ⟨"queue", "2", "ns", ["type"]⟩ 0)] ++ runs 2 2 (.quiet 1 3)

/-- The worker gets the template, and the template is running. -/
theorem template_is_executed : ¬ TemplatesUnexecuted (service .sample) := by
  intro hunexecuted
  have h : Steps (service .sample) (.init (.empty 0) [])
      (fireAll (service .sample) (.init (.empty 0) []) pollMeanwhile) :=
    AllEnabled.steps (by decide +kernel)
  have hrow : ((fireAll (service .sample) (.init (.empty 0) []) pollMeanwhile).store.run 1).map
      (fun r => (r.cronExpr, r.status)) = some (some "*/10 * * * * *", .running) := by
    decide +kernel
  obtain ⟨r, hr, hval⟩ := Option.map_eq_some_iff.mp hrow
  obtain ⟨hcron, hs⟩ := Prod.mk.inj hval
  have hempty : Separate (.empty 0) := fun runId r hr => by cases hr
  exact (hunexecuted _ _ hempty h).1 1 r hr (by rw [hcron]; rfl) hs

end Unexecuted

end Kagzi
