import Kagzi.Server.Footprint
import Kagzi.Server.Templates

/-!
# Catching up after an outage

After an outage, the most recent occurrences that were missed, `max_catchup` of
them at most, are meant to get an instance each, one tick after the other.  The
tick that finds more of them moves on to the first of the recent ones.  But every
later tick counts again, with the occurrences that have become due meanwhile, and
moves on once more if there are too many: it drops occurrences that are owed
(`catch_up_drops_occurrence`).  And a negative `max_catchup` is a large number
after the cast, so that every occurrence gets an instance.

Where `max_catchup` is not negative and no later tick finds too many occurrences
before it has caught up, exactly those owed get an instance
(`catch_up_if_counted_once`).
-/

namespace Kagzi

open Atomic

namespace Catchup

/-- The server, for all requests. -/
abbrev service (cfg : Config) : Service Stmt Stmt.Result World Env Request Status Response :=
  server cfg fun _ => True

/-- An outage: the cron expression, the template, its row, its next fire time, the
last fire time before the outage, and the time of the first tick after it. -/
structure Outage where
  cron : Recurrence
  templateRunId : Uuid
  row : RunRow
  next : Int
  ended : Int

namespace Outage

variable (x : Outage)

/-- The last fire time, or the time of creation. -/
def last : Int := Coordinator.cursor x.row x.next

/-- The occurrences that were missed. -/
def missed : List Int := x.cron.occurrences x.last x.ended

/-- The number of occurrences to catch up on. -/
def limit : Nat := (max x.row.maxCatchup 0).toNat

/-- The most recent of the missed occurrences. -/
def owed : List Int := x.missed.drop (x.missed.length - x.limit)

end Outage

/-- The schedule is not edited, and the first tick comes when the outage is
over. -/
def AfterOutage (x : Outage) : Condition Stmt Stmt.Result World Env := fun _ _ q m =>
  Spares x.templateRunId q ∧
    match q with
    | .findDueSchedules now _ =>
        x.ended ≤ now ∧ ((∀ ran ∈ m.trace, ran.query.isRead = false) → now = x.ended)
    | _ => True

instance (x : Outage) (i : Nat) (e : Env) (q : Stmt) (m : Now) :
    Decidable (AfterOutage x i e q m) := by
  unfold AfterOutage
  split <;> infer_instance

/-- The rate limiter has refused. -/
def Refused (trace : List Ran) : Prop :=
  ∃ ran ∈ trace, ran.query = .rateCheck ∧ ran.env.rand % 2 ≠ 0

/-- What is promised after an outage: only what is owed gets an instance, when the
next fire time lies after the outage all that is owed has one, and a tick that
ends without an error has created one for the slot it read if it is owed. -/
structure CaughtUp (x : Outage) (p : ServerState) : Prop where
  only : ∀ o ∈ x.missed, Fired x.templateRunId o p.trace → o ∈ x.owed
  all : ∀ r ∈ p.store.run x.templateRunId, ∀ a ∈ r.availableAt, x.ended < a →
    ∀ o ∈ x.owed, Fired x.templateRunId o p.trace
  progress : ∀ (i ticks : Nat), p.calls[i]? = some (.coordinator ticks, .ret (.coordinator [])) →
    ∀ ran ∈ p.trace, ran.caller = i → ∀ now ts, batch ran = some (now, ts) → ∀ t ∈ ts,
      t.runId = x.templateRunId → ∀ a ∈ t.availableAt, a ∈ x.owed →
        Fired x.templateRunId a p.trace ∨ Refused p.trace

/-- After every outage the template is caught up on in the runs that meet a
condition.  No occurrence lies between the last fire time and the next. -/
def CatchesUp (cfg : Config) (C : Outage → Condition Stmt Stmt.Result World Env) : Prop :=
  ∀ (x : Outage) (w : World),
    Scheduled cfg x.cron x.templateRunId w x.row → x.row.availableAt = some x.next →
    (∀ o, x.cron.Occurs o → x.last < o → x.next ≤ o) →
    -2 ^ 31 ≤ x.row.maxCatchup → x.row.maxCatchup < 2 ^ 31 → ∀ p : ServerState,
      Steps (((service cfg).restrict (AfterOutage x)).restrict (C x)) (.init w []) p →
      CaughtUp x p

/-- The occurrences are counted once: a later tick finds no more than it may catch
up on until it has caught up.  The slots are free. -/
def CountedOnce (x : Outage) : Condition Stmt Stmt.Result World Env := fun _ _ q m =>
  match q with
  | .findDueSchedules now _ =>
      ∀ r ∈ m.store.run x.templateRunId, ∀ a ∈ r.availableAt, 0 ≤ r.maxCatchup ∧
        ((∀ ran ∈ m.trace, ran.query.isRead = false) ∨ x.ended < a ∨
          Coordinator.missedCount x.cron (Coordinator.cursor r a) now ≤ asUsize r.maxCatchup)
  | .createScheduleInstance template fireAt =>
      template = x.templateRunId → ∀ r, m.store.db.Holds template fireAt r →
        Fired template fireAt m.trace
  | _ => True

instance (x : Outage) (i : Nat) (e : Env) (q : Stmt) (m : Now) :
    Decidable (CountedOnce x i e q m) := by
  apply Stmt.casesOn (motive := fun q => Decidable (CountedOnce x i e q m)) q
  case findDueSchedules =>
    intro now limit
    exact inferInstanceAs (Decidable (∀ r ∈ m.store.run x.templateRunId, ∀ a ∈ r.availableAt,
      0 ≤ r.maxCatchup ∧ ((∀ ran ∈ m.trace, ran.query.isRead = false) ∨ x.ended < a ∨
        Coordinator.missedCount x.cron (Coordinator.cursor r a) now ≤ asUsize r.maxCatchup)))
  case createScheduleInstance =>
    intro template fireAt
    exact decidable_of_iff (template = x.templateRunId →
      m.store.db.slotTaken template fireAt = true → Fired template fireAt m.trace)
      (by simp only [CountedOnce, forall_holds_iff])
  all_goals
    intros
    exact inferInstanceAs (Decidable True)

/-! ## Facts about a template -/

namespace Outage

variable {x : Outage}

theorem mem_missed {o : Int} : o ∈ x.missed ↔ x.cron.Occurs o ∧ x.last < o ∧ o ≤ x.ended :=
  Recurrence.mem_occurrences

theorem missed_of_owed {o : Int} (h : o ∈ x.owed) : o ∈ x.missed := List.mem_of_mem_drop h

/-- All is owed when there is not too much. -/
theorem owed_of_missed {o : Int} (hle : x.missed.length ≤ x.limit) (h : o ∈ x.missed) :
    o ∈ x.owed := by
  unfold owed
  rwa [Nat.sub_eq_zero_of_le hle]

/-- Nothing is owed when nothing is to be caught up on. -/
theorem not_owed_of_zero {o : Int} (h : x.row.maxCatchup = 0) : o ∉ x.owed := by
  have hlimit : x.limit = 0 := by
    unfold limit
    omega
  unfold owed
  simp [hlimit]

/-- What comes after an occurrence that is owed is owed, too. -/
theorem owed_of_le {o v : Int} (ho : o ∈ x.owed) (hv : v ∈ x.missed) (hle : o ≤ v) : v ∈ x.owed :=
  Recurrence.mem_drop_of_le (x.cron.occurrences_pairwise _ _) ho hv hle

end Outage

/-- A next fire time that a tick may fire: it is owed if it was missed. -/
def Good (x : Outage) (next : Int) : Prop :=
  x.missed.length ≤ x.limit ∨ x.ended < next ∨ next ∈ x.owed

theorem Good.owed {x : Outage} {next : Int} (h : Good x next) (hmissed : next ∈ x.missed) :
    next ∈ x.owed := by
  rcases h with h | h | h
  · exact Outage.owed_of_missed h hmissed
  · have := (Outage.mem_missed.mp hmissed).2.2
    omega
  · exact h

/-- Firing a good slot leads to a good one. -/
theorem Good.nextOrYear {x : Outage} {a now : Int} (h : Good x a) (hdue : a ≤ now)
    (hover : x.ended ≤ now) : Good x (Coordinator.nextOrYear x.cron a now) := by
  have hlt := lt_nextOrYear x.cron hdue
  rcases h with h | h | h
  · exact .inl h
  · exact .inr (.inl (by omega))
  · unfold Coordinator.nextOrYear at hlt ⊢
    cases hnext : x.cron.next a with
    | none =>
        have hyear : 0 < days 365 := by decide
        rw [Option.getD_none]
        exact .inr (.inl (by omega))
    | some next =>
        rw [hnext, Option.getD_some] at hlt
        rw [Option.getD_some]
        by_cases hover' : x.ended < next
        · exact .inr (.inl hover')
        · refine .inr (.inr (Outage.owed_of_le h (Outage.mem_missed.mpr ?_) (Int.le_of_lt hlt)))
          have hlast := (Outage.mem_missed.mp (Outage.missed_of_owed h)).2.1
          exact ⟨Recurrence.occurs_of_next hnext, by omega, by omega⟩

/-- Every occurrence that is owed and lies before `next` has an instance. -/
def Passed (x : Outage) (next : Int) (m : Now) : Prop :=
  ∀ o ∈ x.owed, o < next → Fired x.templateRunId o m.trace

/-- No occurrence lies between a last fire time and the next one. -/
def Ahead (x : Outage) (last next : Int) : Prop := ∀ o, x.cron.Occurs o → last < o → next ≤ o

theorem ahead_nextOrYear {x : Outage} {a now : Int} :
    Ahead x a (Coordinator.nextOrYear x.cron a now) :=
  fun _ ho hlt => nextOrYear_le now ho hlt

theorem passed_nextOrYear {x : Outage} {a now : Int} {m : Now} (hpassed : Passed x a m)
    (hfired : Fired x.templateRunId a m.trace) :
    Passed x (Coordinator.nextOrYear x.cron a now) m := by
  intro o ho hlt
  rcases Int.lt_trichotomy o a with h | rfl | h
  · exact hpassed o ho h
  · exact hfired
  · have hocc := (Outage.mem_missed.mp (Outage.missed_of_owed ho)).1
    have := nextOrYear_le now hocc h
    omega

/-- No tick has read the templates yet. -/
abbrev Unread (trace : List Ran) : Prop := ∀ ran ∈ trace, ran.query.isRead = false

/-- The row of the template, with the next fire time `a`. -/
structure OnTrack (cfg : Config) (x : Outage) (r : RunRow) (a : Int) (m : Now) : Prop where
  expr : ∃ expr, r.cronExpr = some expr ∧ cfg.cronSchedule expr = .ok x.cron
  catchup : r.maxCatchup = x.row.maxCatchup
  available : r.availableAt = some a
  passed : Passed x a m
  ahead : Ahead x (Coordinator.cursor r a) a
  /-- The next fire time is good, or still the one from before the outage. -/
  placed : Good x a ∨ a = x.next ∧ Coordinator.cursor r a = x.last
  untouched : Unread m.trace → a = x.next ∧ Coordinator.cursor r a = x.last

/-- The template is on track in the store. -/
structure Tracked (cfg : Config) (x : Outage) (m : Now) : Prop where
  template : m.store.HasTemplate x.templateRunId
  only : ∀ o ∈ x.missed, Fired x.templateRunId o m.trace → o ∈ x.owed
  row : ∃ r a, m.store.run x.templateRunId = some r ∧ r.status = .scheduled ∧ OnTrack cfg x r a m

/-- What the handlers see to: an instance is created for a missed occurrence only
if it is owed, and the fire times are moved on only over occurrences that have
their instance. -/
def Guarded (x : Outage) : Condition Stmt Stmt.Result World Env := fun _ _ q m =>
  match q with
  | .createScheduleInstance template fireAt =>
      template = x.templateRunId → fireAt ∈ x.missed → fireAt ∈ x.owed
  | .updateNextFire runId next last =>
      runId = x.templateRunId → ¬ Unread m.trace ∧ Good x next ∧ Passed x next m ∧
        ∃ l, last = some l ∧ Ahead x l next
  | _ => True

abbrev engine (x : Outage) : Engine Stmt Stmt.Result World Env :=
  (store.restrict (AfterOutage x)).restrict (CountedOnce x)

section Tracking
variable {cfg : Config} {x : Outage}

theorem Passed.after {next : Int} {m : Now} (h : Passed x next m)
    (M : Engine Stmt Stmt.Result World Env) (i : Nat) (e : Env) (q : Stmt) :
    Passed x next (m.after M i e q) :=
  fun o ho hlt => (h o ho hlt).cons _

theorem tracked_invariant :
    Invariant ((engine x).restrict (Guarded x)) (Tracked cfg x) := by
  rintro i e q m ⟨htemplate, honly, r, a, hr, hs, htrack⟩ ⟨⟨⟨-, hspare, -⟩, -⟩, hguard⟩
  refine ⟨htemplate.exec hspare.deletes e, ?_, ?_⟩
  · intro o ho hfired
    rcases fired_cons.mp hfired with ⟨runId, hcreation⟩ | hfired
    · obtain rfl := creation_inv hcreation
      exact hguard rfl ho
    · exact honly o ho hfired
  · have hid := Db.runId_of_run hr
    rw [← hid] at hr hspare
    obtain ⟨r', hr', hsame, hchange⟩ := scheduled_change (e := e) hspare hr hs
    rw [hid] at hr'
    have hcron : ∃ expr, r'.cronExpr = some expr ∧ cfg.cronSchedule expr = .ok x.cron :=
      hsame.cronExpr ▸ htrack.expr
    have hunread : Unread (m.after ((engine x).restrict (Guarded x)) i e q).trace →
        Unread m.trace :=
      fun h ran hran => h ran (List.mem_cons_of_mem _ hran)
    refine ⟨r', ?_⟩
    cases hchange with
    | same hav hl =>
        have hcursor := cursor_of_same (a := a) hl hsame.createdAt
        exact ⟨a, hr', hsame.status.trans hs, hcron, hsame.maxCatchup.trans htrack.catchup,
          hav.trans htrack.available, htrack.passed.after _ i e q, hcursor ▸ htrack.ahead,
          hcursor ▸ htrack.placed, fun h => hcursor ▸ htrack.untouched (hunread h)⟩
    | @moved next last hq hav hl =>
        subst hq
        obtain ⟨hread, hgood, hpassed, l, rfl, hahead⟩ := hguard hid
        have hcursor := cursor_of_moved (a := next) hl
        exact ⟨next, hr', hsame.status.trans hs, hcron, hsame.maxCatchup.trans htrack.catchup,
          hav, hpassed.after _ i e _, hcursor ▸ hahead, .inl hgood,
          fun h => absurd (hunread h) hread⟩

end Tracking

/-! ## What a tick decides -/

section Ticks
variable {cfg : Config} {x : Outage} {r : RunRow} {a now : Int} {m : Now}

/-- What a tick does with the template it read. -/
inductive Plan (cfg : Config) (x : Outage) (now : Int) (r : RunRow) (a : Int) (m : Now) : Prop where
  | skip {next : Int} :
      Coordinator.decision cfg now r = .skip next → Good x next → Passed x next m →
      Ahead x now next → a ∉ x.owed → Plan cfg x now r a m
  | fire :
      Coordinator.decision cfg now r = .fire a (Coordinator.nextOrYear x.cron a now) → Good x a →
      Passed x a m → Plan cfg x now r a m

/-- A tick that finds too many occurrences skips to a good one. -/
theorem plan_of_skip {next : Int} (htrack : OnTrack cfg x r a m)
    (hd : Coordinator.decision cfg now r = .skip next) (hahead : Ahead x now next)
    (hnext : x.ended < a ∧ a ≤ next ∨ x.row.maxCatchup = 0 ∧ x.ended < next) :
    Plan cfg x now r a m := by
  rcases hnext with ⟨hover, hle⟩ | ⟨hzero, hover⟩
  · refine .skip hd (.inr (.inl (by omega))) (fun o ho _ => htrack.passed o ho ?_) hahead fun ho => ?_
    · have := (Outage.mem_missed.mp (Outage.missed_of_owed ho)).2.2
      omega
    · have := (Outage.mem_missed.mp (Outage.missed_of_owed ho)).2.2
      omega
  · exact .skip hd (.inr (.inl hover)) (fun o ho _ => absurd ho (Outage.not_owed_of_zero hzero))
      hahead (Outage.not_owed_of_zero hzero)

/-- The first tick, when too much was missed: it skips to the first occurrence
that is owed. -/
theorem plan_of_first (htrack : OnTrack cfg x r a m) (hunread : Unread m.trace)
    (htoo : x.limit < x.missed.length) (hpos : 0 < x.limit)
    (hd : Coordinator.decision cfg x.ended r =
      .skip ((x.cron.nth x.last (x.missed.length - x.limit)).getD x.ended)) :
    Plan cfg x x.ended r a m := by
  obtain ⟨rfl, hcursor⟩ := htrack.untouched hunread
  have hk : x.missed.length - x.limit < x.missed.length := by omega
  have hsorted : x.missed.Pairwise (· < ·) := x.cron.occurrences_pairwise _ _
  have hnth : x.cron.nth x.last (x.missed.length - x.limit) = some x.missed[x.missed.length - x.limit] :=
    (Recurrence.nth_eq_getElem hk).trans (List.getElem?_eq_getElem hk)
  rw [hnth, Option.getD_some] at hd
  have hmem := Outage.mem_missed.mp (List.getElem_mem hk)
  refine .skip hd (.inr (.inr ?_)) (fun o ho hlt => ?_) (fun o _ hlt => ?_) fun howed => ?_
  · exact List.mem_drop_iff_getElem.mpr ⟨0, by omega, by simp⟩
  · have := Recurrence.getElem_le_of_mem_drop hsorted hk ho
    omega
  · have := hmem.2.2
    omega
  · have hle := Recurrence.getElem_le_of_mem_drop hsorted hk howed
    have hfirst := Outage.mem_missed.mp (List.getElem_mem (l := x.missed) (n := 0) (by omega))
    have hnext := htrack.ahead _ hfirst.1 (hcursor ▸ hfirst.2.1)
    have hlt := List.pairwise_iff_getElem.mp hsorted 0 _ (by omega) hk (by omega)
    omega

theorem OnTrack.plan (htrack : OnTrack cfg x r a m) (hover : x.ended ≤ now)
    (hfirst : Unread m.trace → now = x.ended) (hnonneg : 0 ≤ r.maxCatchup)
    (hrange : r.maxCatchup < 2 ^ 31)
    (hcount : Unread m.trace ∨ x.ended < a ∨
      Coordinator.missedCount x.cron (Coordinator.cursor r a) now ≤ asUsize r.maxCatchup) :
    Plan cfg x now r a m := by
  have hd := decision_eq htrack.available htrack.expr now
  have hlimit : asUsize r.maxCatchup = x.limit := by
    have := asUsize_of_nonneg hnonneg hrange
    have := htrack.catchup
    unfold Outage.limit
    omega
  by_cases hzero : r.maxCatchup = 0
  · rw [if_pos hzero] at hd
    refine plan_of_skip htrack hd ahead_nextOrYear (.inr ⟨htrack.catchup ▸ hzero, ?_⟩)
    exact Int.lt_of_le_of_lt hover (lt_nextOrYear x.cron (Int.le_refl now))
  have hpos : 0 < x.limit := by
    have := asUsize_of_nonneg hnonneg hrange
    omega
  rw [if_neg hzero, hlimit] at hd
  rw [hlimit] at hcount
  by_cases htoo : Coordinator.missedCount x.cron (Coordinator.cursor r a) now > x.limit
  · rw [if_pos htoo] at hd
    rcases hcount with hunread | hlater | hfew
    · obtain ⟨-, hcursor⟩ := htrack.untouched hunread
      obtain rfl := hfirst hunread
      rw [hcursor] at hd htoo
      exact plan_of_first htrack hunread htoo hpos hd
    · have hk : Coordinator.missedCount x.cron (Coordinator.cursor r a) now - x.limit
          < (x.cron.occurrences (Coordinator.cursor r a) now).length := by
        change _ < Coordinator.missedCount x.cron (Coordinator.cursor r a) now
        omega
      rw [Recurrence.nth_eq_getElem hk, List.getElem?_eq_getElem hk, Option.getD_some] at hd
      obtain ⟨hocc, hlt, hle⟩ := Recurrence.mem_occurrences.mp (List.getElem_mem hk)
      exact plan_of_skip htrack hd (fun o _ ho => by omega)
        (.inl ⟨hlater, htrack.ahead _ hocc hlt⟩)
    · omega
  · rw [if_neg htoo] at hd
    refine .fire hd ?_ htrack.passed
    rcases htrack.placed with hgood | ⟨-, hcursor⟩
    · exact hgood
    · rw [hcursor] at htoo
      have hle := Recurrence.occurrences_length_le (c := x.cron) (Int.le_refl x.last) hover
      unfold Coordinator.missedCount at htoo
      exact .inl (by unfold Outage.missed; omega)

end Ticks

/-! ## Every handler is guarded -/

section Handlers
variable {cfg : Config} {x : Outage}

/-- What a tick knows of the template it read. -/
structure Snapshot (cfg : Config) (x : Outage) (now : Int) (t : WorkflowRun) (a : Int)
    (m : Now) : Prop where
  template : m.store.HasTemplate x.templateRunId
  read : ¬ Unread m.trace
  available : t.availableAt = some a
  due : a ≤ now
  ended : x.ended ≤ now
  plan : Plan cfg x now t.toRunRow a m

/-- When the tick is over, the slot it read has an instance if it is owed. -/
def Done (x : Outage) (t : WorkflowRun) (m : Now) : Prop :=
  t.runId = x.templateRunId → ∀ a ∈ t.availableAt, a ∈ x.owed →
    Fired x.templateRunId a m.trace ∨ Refused m.trace

theorem Plan.after {now : Int} {r : RunRow} {a : Int} {m : Now} (h : Plan cfg x now r a m)
    (M : Engine Stmt Stmt.Result World Env) (i : Nat) (e : Env) (q : Stmt) :
    Plan cfg x now r a (m.after M i e q) := by
  cases h with
  | skip hd hgood hpassed hahead howed =>
      exact .skip hd hgood (hpassed.after M i e q) hahead howed
  | fire hd hgood hpassed => exact .fire hd hgood (hpassed.after M i e q)

theorem Done.after {t : WorkflowRun} {m : Now} (h : Done x t m)
    (M : Engine Stmt Stmt.Result World Env) (i : Nat) (e : Env) (q : Stmt) :
    Done x t (m.after M i e q) := by
  intro hid a ha howed
  rcases h hid a ha howed with hfired | ⟨ran, hran, hrefused⟩
  · exact .inl (hfired.cons _)
  · exact .inr ⟨ran, List.mem_cons_of_mem _ hran, hrefused⟩

theorem snapshot_invariant (now : Int) (t : WorkflowRun) :
    Invariant ((engine x).restrict (Guarded x)) fun m =>
      t.runId = x.templateRunId → ∃ a, Snapshot cfg x now t a m := by
  intro i e q m hm ha hid
  obtain ⟨a, hsnap⟩ := hm hid
  exact ⟨a, { hsnap with
    template := hsnap.template.exec ha.1.1.2.1.deletes e
    read := fun h => hsnap.read fun ran hran => h ran (List.mem_cons_of_mem _ hran)
    plan := hsnap.plan.after _ i e q }⟩

/-- A tick that skips does not read a slot that is owed. -/
theorem Snapshot.done_of_skip {now next a : Int} {t : WorkflowRun} {m : Now}
    (h : Snapshot cfg x now t a m) (hd : Coordinator.decision cfg now t.toRunRow = .skip next) :
    Done x t m := by
  intro _ a' ha' howed
  obtain rfl := Option.some.inj (h.available.symm.trans ha')
  cases h.plan with
  | skip _ _ _ _ hnot => exact absurd howed hnot
  | fire hd' _ _ => rw [hd'] at hd; cases hd

theorem Snapshot.fire {now fireAt next a : Int} {t : WorkflowRun} {m : Now}
    (h : Snapshot cfg x now t a m)
    (hd : Coordinator.decision cfg now t.toRunRow = .fire fireAt next) :
    fireAt = a ∧ next = Coordinator.nextOrYear x.cron a now ∧ Good x a ∧ Passed x a m := by
  cases h.plan with
  | skip hd' _ _ _ _ => rw [hd'] at hd; cases hd
  | fire hd' hgood hpassed =>
      rw [hd'] at hd
      obtain ⟨rfl, rfl⟩ := Coordinator.Decision.fire.inj hd
      exact ⟨rfl, rfl, hgood, hpassed⟩

theorem coordinatorRule (hrange : x.row.maxCatchup < 2 ^ 31) (i : Nat) :
    CoordinatorRule cfg (engine x) (Guarded x) i (Tracked cfg x)
      (fun now t m => t.runId = x.templateRunId → ∃ a, Snapshot cfg x now t a m)
      (fun t a m => t.runId = x.templateRunId → Fired x.templateRunId a m.trace)
      (fun _ t => Done x t) where
  inv := tracked_invariant
  snap_steady := fun now t => steady_of_invariant (snapshot_invariant now t)
  made_steady := fun _ _ => steady_of_invariant fun _ _ _ _ hm _ hid => (hm hid).cons _
  done_inv := fun _ _ i e q _ hm _ => hm.after _ i e q
  plain := by
    intro e q m hq _ _
    cases q <;> trivial
  read := by
    intro e m now limit ts hK ha hres t ht hid
    obtain ⟨hrun, -, hdue, -⟩ := mem_findDueSchedules hres ht
    obtain ⟨htemplate, -, r, a, hr, -, htrack⟩ := hK
    rw [hid, hr] at hrun
    obtain rfl := Option.some.inj hrun
    obtain ⟨hover, hfirst⟩ := ha.1.2.2
    obtain ⟨hnonneg, hcount⟩ := ha.2 _ hr a htrack.available
    have hplan := htrack.plan hover hfirst hnonneg (htrack.catchup ▸ hrange) hcount
    refine ⟨a, htemplate.exec (Spares.deletes ha.1.2.1) e, ?_, htrack.available, ?_, hover,
      hplan.after _ i e _⟩
    · intro h
      cases h _ (List.mem_cons_self ..)
    · unfold RunRow.due at hdue
      rw [htrack.available] at hdue
      simpa using hdue
  skip := by
    intro e m now t next hd _ hsnap _ hid
    obtain ⟨a, h⟩ := hsnap hid
    cases h.plan with
    | skip hd' hgood hpassed hahead _ =>
        rw [hd'] at hd
        obtain rfl := Coordinator.Decision.skip.inj hd
        exact ⟨h.read, hgood, hpassed, now, rfl, hahead⟩
    | fire hd' _ _ => rw [hd'] at hd; cases hd
  create := by
    intro e m now t fireAt next hd _ hsnap _ hid hmissed
    obtain ⟨a, h⟩ := hsnap hid
    obtain ⟨rfl, -, hgood, -⟩ := h.fire hd
    exact hgood.owed hmissed
  made := by
    intro e m now t fireAt next answer hd _ hsnap ha hres hid
    obtain ⟨a, h⟩ := hsnap hid
    have htemplate := h.template
    rw [← hid] at htemplate ⊢
    cases answer with
    | some runId => exact fired_of_answer hres
    | none =>
        obtain ⟨r, hr⟩ := taken_of_none htemplate hres
        exact (ha.2 hid r hr).cons _
  advance := by
    intro e m now t fireAt next hd _ hsnap hmade _ hid
    obtain ⟨a, h⟩ := hsnap hid
    obtain ⟨rfl, rfl, hgood, hpassed⟩ := h.fire hd
    exact ⟨h.read, hgood.nextOrYear h.due h.ended, passed_nextOrYear hpassed (hmade hid), fireAt, rfl,
      ahead_nextOrYear⟩
  ignored := by
    intro m now t hd _ hsnap hid
    obtain ⟨a, h⟩ := hsnap hid
    cases h.plan with
    | skip hd' _ _ _ _ => rw [hd'] at hd; cases hd
    | fire hd' _ _ => rw [hd'] at hd; cases hd
  refused := by
    intro e m now t fireAt next _ _ _ _ hres _ _ _ _
    exact .inr ⟨_, List.mem_cons_self .., rfl, fun h => rateCheck_granted h hres⟩
  skipped := by
    intro e m now t next hd _ hsnap _ _ hid
    obtain ⟨a, h⟩ := hsnap hid
    exact (h.done_of_skip hd).after _ i e _ hid
  advanced := by
    intro e m now t fireAt next hd _ hsnap hmade _ _ hid a' ha' _
    obtain ⟨a, h⟩ := hsnap hid
    obtain ⟨rfl, -⟩ := h.fire hd
    obtain rfl := Option.some.inj (h.available.symm.trans ha')
    exact .inl ((hmade hid).cons _)

theorem serves (hrange : x.row.maxCatchup < 2 ^ 31) :
    Serves (((service cfg).restrict (AfterOutage x)).restrict (CountedOnce x)) (Guarded x)
      (Tracked cfg x) (Reported fun _ t => Done x t) (fun _ _ _ _ => True) := by
  refine serves_of_rule rfl (fun req _ hco q hq i e m _ _ => ?_) (coordinatorRule hrange)
  cases q with
  | createScheduleInstance template fireAt =>
      obtain ⟨ticks, rfl⟩ := hq
      exact absurd rfl (hco ticks)
  | updateNextFire runId next last =>
      obtain ⟨ticks, rfl⟩ := hq
      exact absurd rfl (hco ticks)
  | _ => trivial

end Handlers

/-- What is owed gets an instance and nothing else does, where the occurrences are
counted once. -/
theorem catch_up_if_counted_once (cfg : Config) : CatchesUp cfg CountedOnce := by
  intro x w hw hnext hahead _ hrange p h
  have hstart : Tracked cfg x ⟨w, []⟩ := by
    refine ⟨⟨⟨x.row, hw.run⟩, hw.payload⟩, ?_, x.row, x.next, hw.run, hw.status, hw.expr, rfl, hnext,
      ?_, hahead, .inr ⟨rfl, rfl⟩, fun _ => ⟨rfl, rfl⟩⟩
    · rintro o - ⟨runId, hmem⟩
      cases hmem
    · intro o ho hlt
      obtain ⟨hocc, hlast, -⟩ := Outage.mem_missed.mp (Outage.missed_of_owed ho)
      have := hahead o hocc hlast
      omega
  obtain ⟨hrun, hsound⟩ := h.sound (serves hrange) tracked_invariant hstart (sound_nil w)
  obtain ⟨-, honly, r, a, hr, -, htrack⟩ := hrun.invariant tracked_invariant hstart
  constructor
  · exact honly
  · intro r' hr' a' ha' hover o ho
    obtain rfl := Option.some.inj (hr.symm.trans hr')
    obtain rfl := Option.some.inj (htrack.available.symm.trans ha')
    have := (Outage.mem_missed.mp (Outage.missed_of_owed ho)).2.2
    exact htrack.passed o ho (by omega)
  · intro i ticks hget ran hran hcaller now ts hb t ht hid
    exact hsound.result hget ticks rfl rfl ran hran hcaller now ts hb t ht hid

/-! ## An outage that is caught up on -/

/-- Two occurrences of ten seconds are missed, and two may be caught up on. -/
def twoMissed : Outage := ⟨tenSeconds, 1, tenSecondsRow 2, seconds 10, seconds 20⟩

/-- A tick when the outage is over, and another before the next occurrence. -/
def caughtUp : ServerState :=
  fireAll (((service .sample).restrict (AfterOutage twoMissed)).restrict (CountedOnce twoMissed))
    (.init (tenSecondsWorld 2) []) <|
    [.start (.coordinator 2)] ++ runs 0 7 (.quiet 20 2) ++ runs 0 7 (.quiet 25 3)

/-- Both occurrences have an instance. -/
theorem catch_up_if_counted_once_caughtUp :
    twoMissed.owed = [seconds 10, seconds 20] ∧
      ∀ o ∈ twoMissed.owed, Fired 1 o caughtUp.trace := by
  have hscheduled : Scheduled .sample tenSeconds 1 (tenSecondsWorld 2) (tenSecondsRow 2) :=
    scheduled_tenSeconds (by decide +kernel) (by decide +kernel)
  have hsteps : Steps (((service .sample).restrict (AfterOutage twoMissed)).restrict
      (CountedOnce twoMissed)) (.init (tenSecondsWorld 2) []) caughtUp :=
    AllEnabled.steps (by decide +kernel)
  have hcaught := catch_up_if_counted_once .sample twoMissed (tenSecondsWorld 2) hscheduled rfl
    (fun o ho hlt => Recurrence.next_le (show tenSeconds.next 0 = some (seconds 10) from rfl) ho hlt)
    (by decide) (by decide) _ hsteps
  obtain ⟨r, hr, hnext⟩ := Option.map_eq_some_iff.mp
    (show (caughtUp.store.run 1).map RunRow.availableAt = some (some (seconds 30)) by
      decide +kernel)
  exact ⟨by decide +kernel, hcaught.all r hr _ hnext (by decide)⟩

/-! ## An occurrence that is dropped -/

/-- A tick when the outage is over, and another half a minute later. -/
def twoTicks : List (Action Env Request) :=
  [.start (.coordinator 2)] ++ runs 0 7 (.quiet 20 2) ++ runs 0 3 (.quiet 50 3)

/-- The second tick drops the second occurrence. -/
theorem catch_up_drops_occurrence : ¬ CatchesUp .sample fun _ _ _ _ _ => True := by
  intro hcatch
  have hscheduled : Scheduled .sample tenSeconds 1 (tenSecondsWorld 2) (tenSecondsRow 2) :=
    scheduled_tenSeconds (by decide +kernel) (by decide +kernel)
  let S := ((service .sample).restrict (AfterOutage twoMissed)).restrict fun _ _ _ _ => True
  let p := fireAll S (.init (tenSecondsWorld 2) []) twoTicks
  have hsteps : Steps S (.init (tenSecondsWorld 2) []) p := AllEnabled.steps (by decide +kernel)
  have hcaught := hcatch twoMissed (tenSecondsWorld 2) hscheduled rfl
    (fun o ho hlt => Recurrence.next_le (show tenSeconds.next 0 = some (seconds 10) from rfl) ho hlt)
    (by decide) (by decide) p hsteps
  obtain ⟨r, hr, hnext⟩ := Option.map_eq_some_iff.mp
    (show (p.store.run 1).map RunRow.availableAt = some (some (seconds 40)) by decide +kernel)
  have hnone : created 1 (seconds 20) p.trace = [] := by decide +kernel
  obtain ⟨runId, hmem⟩ := hcaught.all r hr _ hnext (by decide) (seconds 20) (by decide +kernel)
  change runId ∈ created 1 (seconds 20) p.trace at hmem
  rw [hnone] at hmem
  cases hmem

end Catchup

end Kagzi
