import Kagzi.Server.Instances

/-!
# Templates between two edits

While nobody edits or deletes a template, only `update_next_fire` moves its fire
times, and what a tick decides about it depends on these and on the time of the
tick alone (`decision_eq`).
-/

namespace Kagzi

open Atomic

/-! ## Templates that are left alone -/

/-- The statement neither edits nor deletes the template. -/
def Spares (templateRunId : Uuid) : Stmt → Prop
  | .updateWorkflow runId _ => runId ≠ templateRunId
  | .deletePayload runId => runId ≠ templateRunId
  | .deleteRun runId => runId ≠ templateRunId
  | _ => True

instance (templateRunId : Uuid) (q : Stmt) : Decidable (Spares templateRunId q) := by
  unfold Spares
  split <;> infer_instance

theorem Spares.deletes {templateRunId : Uuid} {q : Stmt} (h : Spares templateRunId q) :
    q.deletes ≠ some templateRunId := by
  cases q with
  | deletePayload runId => exact fun heq => h (Option.some.inj heq)
  | deleteRun runId => exact fun heq => h (Option.some.inj heq)
  | _ => exact fun heq => by cases heq

/-- What the fire times of a scheduled template become. -/
inductive FireChange (q : Stmt) (r : RunRow) : RunRow → Prop where
  /-- They stay. -/
  | same {r' : RunRow} :
      r'.availableAt = r.availableAt → r'.lastFiredAt = r.lastFiredAt → FireChange q r r'
  /-- They are moved on. -/
  | moved {r' : RunRow} {next : Int} {last : Option Int} :
      q = .updateNextFire r.runId next last → r'.availableAt = some next →
      r'.lastFiredAt = last.or r.lastFiredAt → FireChange q r r'

/-- The columns of a template that only an edit changes. -/
structure RunRow.SameTemplate (r r' : RunRow) : Prop where
  status : r'.status = r.status
  cronExpr : r'.cronExpr = r.cronExpr
  maxCatchup : r'.maxCatchup = r.maxCatchup
  createdAt : r'.createdAt = r.createdAt

/-- A scheduled template that is left alone keeps its schedule, and only
`update_next_fire` moves its fire times. -/
theorem scheduled_change {q : Stmt} {e : Env} {db : Db} {r : RunRow} (hq : Spares r.runId q)
    (hr : db.run r.runId = some r) (hs : r.status = .scheduled) :
    ∃ r', (q.exec e db).2.run r.runId = some r' ∧ r.SameTemplate r' ∧ FireChange q r r' := by
  have hc := q.exec_run e db r.runId
  rw [hr] at hc
  generalize (q.exec e db).2.run r.runId = new at hc
  cases hc with
  | same => exact ⟨r, rfl, ⟨rfl, rfl, rfl, rfl⟩, .same rfl rfl⟩
  | claimed hav =>
      simp only [RunRow.available, hs, Bool.and_eq_true] at hav
      cases hav.1.1.1.2
  | extended _ h => rw [hs] at h; cases h
  | cancelledRunning h => rw [hs] at h; cases h
  | cancelledWaiting h => rw [hs] at h; rcases h with h | h <;> cases h
  | completed h => rw [hs] at h; cases h
  | failed h => rw [hs] at h; cases h
  | slept h => rw [hs] at h; cases h
  | retried h => rw [hs] at h; cases h
  | nextFired => exact ⟨_, rfl, ⟨rfl, rfl, rfl, rfl⟩, .moved rfl rfl rfl⟩
  | overwritten => exact absurd rfl hq
  | deleted => exact absurd rfl hq
  | orphaned _ _ => exact ⟨_, rfl, ⟨rfl, rfl, rfl, rfl⟩, .same rfl rfl⟩

/-- A run comes to be a scheduled template by an edit only, and its next fire time
is moved on by `update_next_fire` only. -/
theorem scheduled_origin {q : Stmt} {e : Env} {db : Db} {templateRunId : Uuid} {r' : RunRow}
    (hq : ∀ workflow, q ≠ .updateWorkflow templateRunId workflow)
    (hr' : (q.exec e db).2.run templateRunId = some r') (hs : r'.status = .scheduled) :
    ∃ r, db.run templateRunId = some r ∧ r.status = .scheduled ∧
      (r'.availableAt = r.availableAt ∨
        ∃ next last, q = .updateNextFire templateRunId next last ∧ r'.availableAt = some next) := by
  have hc := q.exec_run e db templateRunId
  have hid := fun r (hr : db.run templateRunId = some r) => Db.runId_of_run hr
  rw [hr'] at hc
  generalize db.run templateRunId = old at hc hid
  cases hc with
  | same => exact ⟨_, rfl, hs, .inl rfl⟩
  | created => cases hs
  | instantiated => cases hs
  | claimed _ => cases hs
  | @extended _ _ r _ h => rw [show r.status = .scheduled from hs] at h; cases h
  | cancelledRunning _ => cases hs
  | cancelledWaiting _ => cases hs
  | completed _ => cases hs
  | failed _ => cases hs
  | slept _ => cases hs
  | retried _ => cases hs
  | nextFired => exact ⟨_, rfl, hs, .inr ⟨_, _, by rw [hid _ rfl], rfl⟩⟩
  | overwritten => exact absurd (by rw [hid _ rfl]) (hq _)
  | orphaned _ _ => exact ⟨_, rfl, hs, .inl rfl⟩

theorem updateWorkflow_ok {e : Env} {w : World} {templateRunId : Uuid} {workflow : RunRow}
    (h : (store.exec e (.updateWorkflow templateRunId workflow) w).1 = .ok ()) :
    (store.exec e (.updateWorkflow templateRunId workflow) w).2.run templateRunId =
      (w.run templateRunId).map (RunRow.overwrite workflow) := by
  rw [store_exec_fst] at h
  rw [store_exec_run, Stmt.exec_ok h]
  rw [Stmt.exec_ok h] at h
  revert h
  change (Kagzi.updateWorkflow templateRunId workflow e w.db).1 = .ok () →
    (Kagzi.updateWorkflow templateRunId workflow e w.db).2.run templateRunId = _
  unfold Kagzi.updateWorkflow
  split
  next =>
    intro h
    rw [Db.commitRuns_ok (f := RunRow.overwrite workflow) (fun _ => rfl) h]
    change Option.map _ (w.db.run templateRunId) = Option.map _ (w.db.run templateRunId)
    cases hr : w.db.run templateRunId with
    | none => rfl
    | some r => simp [Db.runId_of_run hr]
  next => intro h; cases h

theorem updateWorkflow_error {e : Env} {w : World} {templateRunId : Uuid} {workflow : RunRow}
    {x : StoreError} (h : (store.exec e (.updateWorkflow templateRunId workflow) w).1 = .error x) :
    (store.exec e (.updateWorkflow templateRunId workflow) w).2.db = w.db := by
  rw [store_exec_fst] at h
  rw [store_exec_db]
  rcases Stmt.exec_cases e (.updateWorkflow templateRunId workflow) w.db with hx | hx
  · rw [hx]
  · rw [hx] at h ⊢
    revert h
    change (Kagzi.updateWorkflow templateRunId workflow e w.db).1 = .error x →
      (Kagzi.updateWorkflow templateRunId workflow e w.db).2 = _
    unfold Kagzi.updateWorkflow
    split
    next => exact Db.commitRuns_error
    next => exact fun _ => rfl

theorem updateNextFire_ok {e : Env} {w : World} {templateRunId : Uuid} {next : Int}
    {last : Option Int}
    (h : (store.exec e (.updateNextFire templateRunId next last) w).1 = .ok ()) :
    (store.exec e (.updateNextFire templateRunId next last) w).2.run templateRunId =
      (w.run templateRunId).map (RunRow.nextFire next last) := by
  rw [store_exec_fst] at h
  rw [store_exec_run, Stmt.exec_ok h]
  rw [Stmt.exec_ok h] at h
  refine (Db.commitRuns_ok (f := RunRow.nextFire next last) (fun _ => rfl) h templateRunId).trans ?_
  change Option.map _ (w.db.run templateRunId) = Option.map _ (w.db.run templateRunId)
  cases hr : w.db.run templateRunId with
  | none => rfl
  | some r => simp [Db.runId_of_run hr]

theorem updateNextFire_error {e : Env} {w : World} {templateRunId : Uuid} {next : Int}
    {last : Option Int} {x : StoreError}
    (h : (store.exec e (.updateNextFire templateRunId next last) w).1 = .error x) :
    (store.exec e (.updateNextFire templateRunId next last) w).2.db = w.db := by
  rw [store_exec_fst] at h
  rw [store_exec_db]
  rcases Stmt.exec_cases e (.updateNextFire templateRunId next last) w.db with hx | hx
  · rw [hx]
  · rw [hx] at h ⊢
    exact Db.commitRuns_error h

/-- The template is scheduled, with this cron expression. -/
structure Scheduled (cfg : Config) (cron : Recurrence) (templateRunId : Uuid) (w : World)
    (r : RunRow) : Prop where
  run : w.run templateRunId = some r
  payload : w.db.HasPayload templateRunId
  status : r.status = .scheduled
  expr : ∃ expr, r.cronExpr = some expr ∧ cfg.cronSchedule expr = .ok cron

theorem scheduled_tenSeconds {maxCatchup : Int}
    (hrun : (tenSecondsWorld maxCatchup).run 1 = some (tenSecondsRow maxCatchup))
    (hpayload : ((tenSecondsWorld maxCatchup).db.payloads.get? 1).isSome = true) :
    Scheduled .sample tenSeconds 1 (tenSecondsWorld maxCatchup) (tenSecondsRow maxCatchup) :=
  ⟨hrun, hpayload, rfl, _, rfl, rfl⟩

/-! ## Decisions -/

section Decisions
variable {cfg : Config} {cron : Recurrence} {r r' : RunRow} {a now : Int}

theorem cursor_of_same (hl : r'.lastFiredAt = r.lastFiredAt) (hc : r'.createdAt = r.createdAt) :
    Coordinator.cursor r' a = Coordinator.cursor r a := by
  simp only [Coordinator.cursor, hl, hc]

theorem cursor_of_moved {last : Int} {earlier : Option Int}
    (hl : r'.lastFiredAt = (some last).or earlier) : Coordinator.cursor r' a = last := by
  simp only [Coordinator.cursor, hl]
  rfl

/-- The decision on a template with a next fire time and a cron expression. -/
theorem decision_eq (havailable : r.availableAt = some a)
    (hexpr : ∃ expr, r.cronExpr = some expr ∧ cfg.cronSchedule expr = .ok cron) (now : Int) :
    Coordinator.decision cfg now r =
      if r.maxCatchup = 0 then .skip (Coordinator.nextOrYear cron now now)
      else if Coordinator.missedCount cron (Coordinator.cursor r a) now > asUsize r.maxCatchup then
        .skip ((cron.nth (Coordinator.cursor r a)
          (Coordinator.missedCount cron (Coordinator.cursor r a) now - asUsize r.maxCatchup)).getD now)
      else .fire a (Coordinator.nextOrYear cron a now) := by
  obtain ⟨expr, hexpr, hcron⟩ := hexpr
  unfold Coordinator.decision
  rw [havailable, hexpr]
  dsimp only
  rw [hcron]

/-- A tick that does something with a template found its columns filled. -/
theorem columns_of_decision {d : Coordinator.Decision} (hd : Coordinator.decision cfg now r = d)
    (hignore : d ≠ .ignore) (habort : ∀ x, d ≠ .abort x) :
    ∃ a cron, r.availableAt = some a ∧
      ∃ expr, r.cronExpr = some expr ∧ cfg.cronSchedule expr = .ok cron := by
  unfold Coordinator.decision at hd
  split at hd
  next => exact absurd hd.symm hignore
  next => exact absurd hd.symm hignore
  next a expr ha hexpr =>
    split at hd
    next => exact absurd hd.symm (habort _)
    next cron hcron => exact ⟨a, cron, ha, expr, hexpr, hcron⟩

/-- A tick fires a template at its next fire time and moves on from there. -/
theorem fire_of_decision {fireAt next : Int}
    (hd : Coordinator.decision cfg now r = .fire fireAt next) :
    r.availableAt = some fireAt ∧ ∃ cron, next = Coordinator.nextOrYear cron fireAt now := by
  obtain ⟨a, cron, ha, hexpr⟩ := columns_of_decision hd nofun nofun
  rw [decision_eq ha hexpr] at hd
  split at hd
  next => cases hd
  next =>
    split at hd
    next => cases hd
    next =>
      obtain ⟨rfl, rfl⟩ := Coordinator.Decision.fire.inj hd
      exact ⟨ha, cron, rfl⟩

/-- No occurrence lies between a slot and the next one. -/
theorem nextOrYear_le (now : Int) {o : Int} (ho : cron.Occurs o) (hlt : a < o) :
    Coordinator.nextOrYear cron a now ≤ o := by
  unfold Coordinator.nextOrYear
  cases hnext : cron.next a with
  | none =>
      have := Recurrence.le_of_next_none hnext ho
      omega
  | some next => exact Recurrence.next_le hnext ho hlt

theorem lt_nextOrYear (cron : Recurrence) (hdue : a ≤ now) :
    a < Coordinator.nextOrYear cron a now := by
  unfold Coordinator.nextOrYear
  cases hnext : cron.next a with
  | none =>
      have hyear : 0 < days 365 := by decide
      rw [Option.getD_none]
      omega
  | some next => exact cron.lt_next hnext

end Decisions

end Kagzi
