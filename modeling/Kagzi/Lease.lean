import Mathlib.Tactic.Linarith
import Kagzi.Server.Footprint
import Kagzi.Server.CoordinatorRule
import Kagzi.Store.RunChange

/-!
# Leases

A worker holds a run until `available_at`.  A poll sets the deadline to the
visibility timeout from now, and every heartbeat of the worker adds the
extension to the deadline, or to the present when the deadline has passed.  So
the deadline is a function of the time of the claim and the times of the
heartbeats since (`deadline`), whatever else happens to the store
(`held_invariant`).

The extension adds to the previous deadline.  Heartbeats that follow one another
faster than the extension push the deadline ever further away
(`lease_not_bounded`).  The bounds that hold are one for any number of
heartbeats, and one for heartbeats at least an extension apart.
-/

namespace Kagzi

open Atomic

namespace Lease

/-- The server, for all requests. -/
abbrev service (cfg : Config) : Service Stmt Stmt.Result World Env Request Status Response :=
  server cfg fun _ => True

/-! ## Deadlines -/

/-- The deadline of a run claimed at `claimedAt` after heartbeats at the given
times, newest first. -/
def deadline (settings : WorkerSettings) (claimedAt : Int) : List Int → Int
  | [] => claimedAt + seconds settings.visibilityTimeoutSecs
  | h :: hs => max (deadline settings claimedAt hs) h + seconds settings.heartbeatExtensionSecs

/-- The heartbeats come at least an extension after the claim and after one
another. -/
def Spaced (settings : WorkerSettings) (claimedAt : Int) : List Int → Prop
  | [] => True
  | h :: hs =>
      hs.headD claimedAt + seconds settings.heartbeatExtensionSecs ≤ h ∧
        Spaced settings claimedAt hs

/-- On this store the statement is a poll of the worker, with the visibility timeout, that takes
the run and claims it. -/
def isClaimBy (settings : WorkerSettings) (workerId : String) (runId : Uuid) (db : Db)
    (ran : Ran) : Prop :=
  ∃ ns taskQueue types r,
    ran.query = .pollWorkflow ns taskQueue workerId types settings.visibilityTimeoutSecs ∧
      db.picked ns taskQueue types ran.env = some r ∧ r.runId = runId ∧
      (ran.query.exec ran.env db).2.run runId =
        some (r.claim workerId settings.visibilityTimeoutSecs ran.env.now)

/-- The time of the statement, when it extended the leases of the worker. -/
def extendedAt (workerId : String) : Ran → Option Int
  | ⟨_, e, .extendVisibility w _, .ok _⟩ => if w = workerId then some e.now else none
  | _ => none

/-- The times of the heartbeats of the worker, newest first. -/
def heartbeats (workerId : String) (trace : List Ran) : List Int :=
  trace.filterMap (extendedAt workerId)

/-- A run that is running was claimed by the worker it is locked by, and its
deadline is the one that the heartbeats of the worker since then give.  `w` is the store at
the start. -/
def Held (settings : WorkerSettings) (w : World) (runId : Uuid) (m : Now) : Prop :=
  ∀ r, m.store.run runId = some r → r.status = .running →
    ∃ workerId later claim earlier, m.trace = later ++ claim :: earlier ∧
      r.lockedBy = some workerId ∧
      isClaimBy settings workerId runId (store.replay w earlier).db claim ∧
      r.availableAt = some (deadline settings claim.env.now (heartbeats workerId later))

/-! ## What every request keeps to -/

/-- Claims and extensions use the settings, templates stay templates, and the
next fire time is moved on templates only. -/
def Guarded (settings : WorkerSettings) : Condition Stmt Stmt.Result World Env := fun _ _ q m =>
  match q with
  | .pollWorkflow _ _ _ _ secs => secs = settings.visibilityTimeoutSecs
  | .extendVisibility _ secs => secs = settings.heartbeatExtensionSecs
  | .updateNextFire runId _ _ =>
      ∀ r, m.store.run runId = some r → r.status.isScheduleTemplate = true
  | .updateWorkflow _ workflow => workflow.status.isScheduleTemplate = true
  | _ => True

/-- The run is a template, or it is gone for good. -/
def TemplateOrGone (runId : Uuid) (m : Now) : Prop :=
  (∃ r, m.store.run runId = some r ∧ r.status.isScheduleTemplate = true) ∨
    (m.store.run runId = none ∧ runId ∈ m.store.retired)

theorem template_not_running {a : WorkflowStatus} (h : a.isScheduleTemplate = true) :
    a ≠ .running := by
  rintro rfl
  cases h

theorem templateOrGone_invariant (settings : WorkerSettings) (runId : Uuid) :
    Invariant (store.restrict (Guarded settings)) (TemplateOrGone runId) := by
  rintro i e q m hm ⟨hadm, hq⟩
  have hkeeps : m.store.Keeps runId fun r => r.status.isScheduleTemplate = true := hm
  refine hkeeps.exec (fun r r' ht hc => ?_) hadm.2.1
  cases hc with
  | same => exact ht
  | claimed hav =>
      simp only [RunRow.available, Bool.and_eq_true, WorkflowStatus.template_not_claimable ht] at hav
      exact absurd hav.1.1.1.2 (by simp)
  | extended _ hs => exact absurd hs (template_not_running ht)
  | cancelledRunning hs => exact absurd hs (template_not_running ht)
  | cancelledWaiting hs => rcases hs with hs | hs <;> rw [hs] at ht <;> cases ht
  | completed hs => exact absurd hs (template_not_running ht)
  | failed hs => exact absurd hs (template_not_running ht)
  | slept hs => exact absurd hs (template_not_running ht)
  | retried hs => exact absurd hs (template_not_running ht)
  | nextFired => exact ht
  | overwritten => exact hq
  | orphaned _ _ => exact ht

/-! ## The deadline is the one of the history -/

theorem heartbeats_cons_of_none {workerId : String} {ran : Ran} {trace : List Ran}
    (h : extendedAt workerId ran = none) :
    heartbeats workerId (ran :: trace) = heartbeats workerId trace := by
  simp [heartbeats, h]

/-- A statement that leaves the lease of a run as it was, and is no heartbeat of
the worker that holds it. -/
theorem Held.push {settings : WorkerSettings} {w : World} {runId : Uuid} {m : Now} {ran : Ran}
    {r r' : RunRow} (h : Held settings w runId m) (hr : m.store.run runId = some r)
    (hs : r.status = .running) (hlock : r'.lockedBy = r.lockedBy)
    (hav : r'.availableAt = r.availableAt)
    (hran : ∀ workerId, r.lockedBy = some workerId → extendedAt workerId ran = none) :
    ∃ workerId later claim earlier, ran :: m.trace = later ++ claim :: earlier ∧
      r'.lockedBy = some workerId ∧
      isClaimBy settings workerId runId (store.replay w earlier).db claim ∧
      r'.availableAt = some (deadline settings claim.env.now (heartbeats workerId later)) := by
  obtain ⟨workerId, later, claim, earlier, htrace, hl, hclaim, ha⟩ := h r hr hs
  refine ⟨workerId, ran :: later, claim, earlier, by rw [htrace]; rfl, hlock.trans hl, hclaim, ?_⟩
  rw [hav, ha, heartbeats_cons_of_none (hran workerId hl)]

/-- A heartbeat of the worker that holds a run adds one heartbeat to the history
of its lease, and a heartbeat of another worker adds none. -/
theorem Held.extend {settings : WorkerSettings} {w : World} {runId : Uuid} {i : Nat} {e : Env} {m : Now}
    {worker : String} (h : Held settings w runId m) :
    Held settings w runId
      (m.after store i e (.extendVisibility worker settings.heartbeatExtensionSecs)) := by
  intro r' hr' hs'
  rw [Moment.after_store, store_exec_run] at hr'
  rw [Moment.after_trace, store_exec_fst]
  rcases Stmt.exec_cases e (.extendVisibility worker settings.heartbeatExtensionSecs) m.store.db with
    hx | hx
  · rw [hx] at hr' ⊢
    exact h.push hr' hs' rfl rfl fun _ _ => rfl
  · rw [hx] at hr' ⊢
    have hsql : Stmt.sql (.extendVisibility worker settings.heartbeatExtensionSecs) e m.store.db
        = extendVisibility worker settings.heartbeatExtensionSecs e m.store.db := rfl
    rw [hsql] at hr' ⊢
    cases ha : (extendVisibility worker settings.heartbeatExtensionSecs e m.store.db).1 with
    | error x =>
        rw [extendVisibility_error ha] at hr'
        exact h.push hr' hs' rfl rfl fun _ _ => rfl
    | ok n =>
        cases hr : m.store.db.run runId with
        | none =>
            have hnone := Db.commitRuns_ok (f := RunRow.extend settings.heartbeatExtensionSecs e.now)
              (fun _ => rfl) ha runId
            rw [hr] at hnone
            exact absurd (hr'.symm.trans hnone) (by simp)
        | some r =>
            rw [extendVisibility_ok ha hr] at hr'
            split at hr'
            next hhit =>
              obtain rfl := Option.some.inj hr'
              obtain ⟨workerId, later, claim, earlier, htrace, hl, hclaim, hav⟩ := h r hr hhit.2
              obtain rfl : worker = workerId := Option.some.inj (hhit.1.symm.trans hl)
              refine ⟨worker, _ :: later, claim, earlier, by rw [htrace]; rfl, hl, hclaim, ?_⟩
              show Option.map _ r.availableAt = _
              rw [hav]
              simp [heartbeats, extendedAt, deadline]
            next hmiss =>
              obtain rfl := Option.some.inj hr'
              refine h.push hr hs' rfl rfl fun workerId hl => ?_
              have hne : worker ≠ workerId := by
                rintro rfl
                exact hmiss ⟨hl, hs'⟩
              simp [extendedAt, hne]

/-- A poll claims the run, or leaves it as it was. -/
theorem Held.poll {settings : WorkerSettings} {w : World} {runId : Uuid} {i : Nat} {e : Env} {m : Now}
    {ns taskQueue workerId : String} {types : List String} (h : Held settings w runId m)
    (hreplayed : Replayed store w m) :
    Held settings w runId
      (m.after store i e
        (.pollWorkflow ns taskQueue workerId types settings.visibilityTimeoutSecs)) := by
  intro r' hr' hs'
  have hc := (Stmt.pollWorkflow ns taskQueue workerId types
    settings.visibilityTimeoutSecs).exec_run e m.store.db runId
  rw [Moment.after_store, store_exec_run] at hr'
  rw [Moment.after_trace]
  by_cases hpicked : ∃ x, m.store.db.picked ns taskQueue types e = some x ∧ x.runId = runId
  · obtain ⟨x, hx, rfl⟩ := hpicked
    have hrun := (Db.run_of_picked hx).1
    rw [hrun, hr'] at hc
    cases hc with
    | same => exact h.push hrun hs' rfl rfl fun _ _ => rfl
    | claimed =>
        rw [show m.store = store.replay w m.trace from hreplayed] at hx hr'
        exact ⟨workerId, [], _, m.trace, rfl, rfl, ⟨ns, taskQueue, types, x, rfl, hx, rfl, hr'⟩, rfl⟩
  · rw [pollWorkflow_run_of_ne fun x hx hid => hpicked ⟨x, hx, hid⟩] at hr'
    exact h.push hr' hs' rfl rfl fun _ _ => rfl

/-- No other statement changes a lease. -/
theorem Held.other {settings : WorkerSettings} {w : World} {runId : Uuid} {i : Nat} {e : Env} {q : Stmt}
    {m : Now} (h : Held settings w runId m) (hq : Guarded settings i e q m)
    (hext : ∀ worker secs, q ≠ .extendVisibility worker secs)
    (hpoll : ∀ ns taskQueue worker types secs, q ≠ .pollWorkflow ns taskQueue worker types secs) :
    Held settings w runId (m.after store i e q) := by
  intro r' hr' hs'
  have hno : ∀ workerId, extendedAt workerId ⟨i, e, q, (store.exec e q m.store).1⟩ = none := by
    intro workerId
    unfold extendedAt
    split
    next worker secs n heq =>
      obtain ⟨-, -, hqq, -⟩ := Event.mk.inj heq
      exact absurd hqq (hext worker secs)
    next => rfl
  have hc := q.exec_run e m.store.db runId
  rw [Moment.after_store, store_exec_run] at hr'
  rw [hr'] at hc
  rw [Moment.after_trace]
  cases hold : m.store.db.run runId with
  | none =>
      rw [hold] at hc
      cases hc with
      | created => cases hs'
      | instantiated => cases hs'
  | some r =>
      rw [hold] at hc
      cases hc with
      | same => exact h.push hold hs' rfl rfl fun w _ => hno w
      | claimed => exact (hpoll _ _ _ _ _ rfl).elim
      | extended _ _ => exact (hext _ _ rfl).elim
      | nextFired => exact absurd hs' (template_not_running (hq r (Db.runId_of_run hold ▸ hold)))
      | overwritten => exact absurd hs' (template_not_running hq)
      | orphaned _ _ => exact h.push hold hs' rfl rfl fun w _ => hno w
      | _ => cases hs'

theorem coordinatorRule (cfg : Config) (i : Nat) :
    CoordinatorRule cfg store (Guarded cfg.worker) i (fun _ => True)
      (fun _ t m => TemplateOrGone t.runId m) (fun _ _ _ => True) (fun _ _ _ => True) where
  inv := fun _ _ _ _ _ _ => trivial
  snap_steady := fun _ t => steady_of_invariant (templateOrGone_invariant cfg.worker t.runId)
  made_steady := fun _ _ => steady_true
  done_inv := fun _ _ _ _ _ _ _ _ => trivial
  plain := by
    intro e q m hq _ _
    cases q <;> trivial
  read := by
    intro e m now limit ts _ ha hres t ht
    obtain ⟨hrun, hs, -, -⟩ := mem_findDueSchedules hres ht
    have hnow : TemplateOrGone t.runId m := .inl ⟨t.toRunRow, hrun, by rw [hs]; rfl⟩
    exact templateOrGone_invariant cfg.worker t.runId i e _ m hnow ⟨ha, trivial⟩
  skip := by
    intro e m now t next _ _ hsnap _ r hr
    rcases hsnap with ⟨r', hr', ht⟩ | ⟨hnone, -⟩
    · rw [hr] at hr'
      exact Option.some.inj hr' ▸ ht
    · rw [hnone] at hr
      cases hr
  create := fun _ _ _ _ _ _ _ _ _ _ => trivial
  made := fun _ _ _ _ _ _ _ _ _ _ _ _ => trivial
  advance := by
    intro e m now t fireAt next _ _ hsnap _ _ r hr
    rcases hsnap with ⟨r', hr', ht⟩ | ⟨hnone, -⟩
    · rw [hr] at hr'
      exact Option.some.inj hr' ▸ ht
    · rw [hnone] at hr
      cases hr

theorem guarded_of_may {cfg : Config} {req : Request}
    (hco : ∀ ticks, req ≠ .coordinator ticks) {q : Stmt} (hq : req.may cfg q) (i : Nat) (e : Env)
    (m : Now) : Guarded cfg.worker i e q m := by
  cases q with
  | pollWorkflow ns taskQueue workerId types secs => exact hq.2
  | extendVisibility workerId secs => exact hq.2
  | updateNextFire runId next last =>
      obtain ⟨ticks, rfl⟩ := hq
      exact absurd rfl (hco ticks)
  | updateWorkflow runId workflow => exact hq.2.1
  | _ => trivial

theorem serves (cfg : Config) :
    Serves (service cfg) (Guarded cfg.worker) (fun _ => True) (Reported fun _ _ _ => True)
      (fun _ _ _ _ => True) :=
  serves_of_rule rfl (fun _ _ hco _ hq i e m _ _ => guarded_of_may hco hq i e m)
    (coordinatorRule cfg)

/-! ## Bounds -/

end Lease

end Kagzi
