import Kagzi.Server.Footprint
import Kagzi.Server.Templates

/-!
# Firing on time

Ticks without an outage find at most one missed occurrence, and a template is
meant to get an instance for every occurrence, in time.  A template whose
`max_catchup` is zero gets none: a tick takes the occurrence that has just become
due for a missed one and skips it (`not_on_time`).  A template with any other
`max_catchup` is fired on time, as long as no other run of the template holds the
slot in the index when its instance is to be created (`on_time_if_firable`).
-/

namespace Kagzi

open Atomic

namespace OnTime

/-- The server, for all requests. -/
abbrev service (cfg : Config) : Service Stmt Stmt.Result World Env Request Status Response :=
  server cfg fun _ => True

/-- The schedule is not edited, the rate limiter does not refuse, and there is no
outage: a tick finds at most one occurrence between the last fire time and its
own time. -/
def Regular (cron : Recurrence) (templateRunId : Uuid) : Condition Stmt Stmt.Result World Env :=
  fun _ e q m => Spares templateRunId q ∧
    match q with
    | .rateCheck => e.rand % 2 = 0
    | .findDueSchedules now _ =>
        ∀ r ∈ m.store.run templateRunId, ∀ a ∈ r.availableAt,
          Coordinator.missedCount cron (Coordinator.cursor r a) now ≤ 1
    | _ => True

instance (cron : Recurrence) (templateRunId : Uuid) (i : Nat) (e : Env) (q : Stmt) (m : Now) :
    Decidable (Regular cron templateRunId i e q m) := by
  apply Stmt.casesOn (motive := fun q => Decidable (Regular cron templateRunId i e q m)) q
  case rateCheck =>
    exact inferInstanceAs (Decidable (Spares templateRunId .rateCheck ∧ e.rand % 2 = 0))
  case findDueSchedules =>
    intro now limit
    exact inferInstanceAs (Decidable (Spares templateRunId (.findDueSchedules now limit) ∧
      ∀ r ∈ m.store.run templateRunId, ∀ a ∈ r.availableAt,
        Coordinator.missedCount cron (Coordinator.cursor r a) now ≤ 1))
  all_goals
    intros
    exact inferInstanceAs (Decidable (_ ∧ True))

/-- What is promised of the template: its next fire time passes no occurrence
without an instance, the slot a tick read has one when the tick is over, and so
has every occurrence up to then. -/
structure Punctual (cron : Recurrence) (templateRunId : Uuid) (r₀ : RunRow) (a₀ : Int)
    (p : ServerState) : Prop where
  passed : ∀ r ∈ p.store.run templateRunId, ∀ a ∈ r.availableAt, ∀ o, cron.Occurs o → a₀ ≤ o →
    o < a → Fired templateRunId o p.trace
  slot : ∀ (i ticks : Nat), p.calls[i]? = some (.coordinator ticks, .ret (.coordinator [])) →
    ∀ ran ∈ p.trace, ran.caller = i → ∀ now ts, batch ran = some (now, ts) → ∀ t ∈ ts,
      t.runId = templateRunId → ∀ a ∈ t.availableAt, Fired templateRunId a p.trace
  ticked : Coordinator.cursor r₀ a₀ < a₀ → cron.Occurs a₀ → ∀ (i ticks : Nat),
    p.calls[i]? = some (.coordinator ticks, .ret (.coordinator [])) →
    ∀ ran ∈ p.trace, ran.caller = i → ∀ now ts, batch ran = some (now, ts) → ∀ t ∈ ts,
      t.runId = templateRunId → ∀ o, cron.Occurs o → a₀ ≤ o → o ≤ now →
        Fired templateRunId o p.trace

/-- Every template is fired on time in the regular runs that meet a condition. -/
def FiresOnTime (cfg : Config) (C : Uuid → Condition Stmt Stmt.Result World Env) : Prop :=
  ∀ (cron : Recurrence) (templateRunId : Uuid) (w : World) (r₀ : RunRow) (a₀ : Int),
    Scheduled cfg cron templateRunId w r₀ → r₀.availableAt = some a₀ → 0 ≤ r₀.maxCatchup →
    r₀.maxCatchup < 2 ^ 31 → ∀ p : ServerState,
      Steps (((service cfg).restrict (Regular cron templateRunId)).restrict (C templateRunId))
        (.init w []) p → Punctual cron templateRunId r₀ a₀ p

/-- Missed occurrences may be caught up on, and a slot that an instance is to be
created for is held by none but its own instances. -/
def Firable (templateRunId : Uuid) : Condition Stmt Stmt.Result World Env := fun _ _ q m =>
  match q with
  | .findDueSchedules _ _ => ∀ r ∈ m.store.run templateRunId, r.maxCatchup ≠ 0
  | .createScheduleInstance template fireAt =>
      template = templateRunId → ∀ r, m.store.db.Holds template fireAt r →
        Fired template fireAt m.trace
  | _ => True

instance (templateRunId : Uuid) (i : Nat) (e : Env) (q : Stmt) (m : Now) :
    Decidable (Firable templateRunId i e q m) := by
  apply Stmt.casesOn (motive := fun q => Decidable (Firable templateRunId i e q m)) q
  case findDueSchedules =>
    intro now limit
    exact decidable_of_iff (∀ r ∈ m.store.run templateRunId, r.maxCatchup ≠ 0) Iff.rfl
  case createScheduleInstance =>
    intro template fireAt
    exact decidable_of_iff (template = templateRunId → m.store.db.slotTaken template fireAt = true →
      Fired template fireAt m.trace) (by simp only [Firable, forall_holds_iff])
  all_goals
    intros
    exact .isTrue trivial

/-! ## Facts about a template -/

section Facts
variable (cfg : Config) (cron : Recurrence) (templateRunId : Uuid) (r₀ : RunRow) (a₀ : Int)

/-- Every occurrence from `a₀` on and before `next` has an instance. -/
def Passed (next : Int) (m : Now) : Prop :=
  ∀ o, cron.Occurs o → a₀ ≤ o → o < next → Fired templateRunId o m.trace

/-- When an occurrence after the next fire time is due, two are missed. -/
def Close (last next : Int) : Prop :=
  ∀ o, cron.Occurs o → next < o → 2 ≤ Coordinator.missedCount cron last o

/-- The template starts at its first occurrence. -/
def Started : Prop := Coordinator.cursor r₀ a₀ < a₀ ∧ cron.Occurs a₀

/-- The row of a template with the next fire time `a`. -/
structure OnTrack (r : RunRow) (a : Int) (m : Now) : Prop where
  expr : ∃ expr, r.cronExpr = some expr ∧ cfg.cronSchedule expr = .ok cron
  catchup : r.maxCatchup = r₀.maxCatchup
  available : r.availableAt = some a
  passed : Passed cron templateRunId a₀ a m
  close : Started cron r₀ a₀ → Close cron (Coordinator.cursor r a) a

/-- The template is on track in the store. -/
def Tracked (m : Now) : Prop :=
  m.store.HasTemplate templateRunId ∧ ∃ r a, m.store.run templateRunId = some r ∧
    r.status = .scheduled ∧ OnTrack cfg cron templateRunId r₀ a₀ r a m

/-- What the handlers see to: the fire times are moved on only over occurrences
that have an instance. -/
def Guarded : Condition Stmt Stmt.Result World Env := fun _ _ q m =>
  match q with
  | .updateNextFire runId next last =>
      runId = templateRunId → Passed cron templateRunId a₀ next m ∧
        ∃ l, last = some l ∧ Close cron l next
  | _ => True

abbrev engine : Engine Stmt Stmt.Result World Env :=
  (store.restrict (Regular cron templateRunId)).restrict (Firable templateRunId)

end Facts

section Tracking
variable {cfg : Config} {cron : Recurrence} {templateRunId : Uuid} {r₀ : RunRow} {a₀ : Int}

theorem Passed.after {next : Int} {m : Now} (h : Passed cron templateRunId a₀ next m)
    (M : Engine Stmt Stmt.Result World Env) (i : Nat) (e : Env) (q : Stmt) :
    Passed cron templateRunId a₀ next (m.after M i e q) :=
  fun o ho h1 h2 => (h o ho h1 h2).cons _

theorem OnTrack.after {r : RunRow} {a : Int} {m : Now}
    (h : OnTrack cfg cron templateRunId r₀ a₀ r a m) (M : Engine Stmt Stmt.Result World Env)
    (i : Nat) (e : Env) (q : Stmt) : OnTrack cfg cron templateRunId r₀ a₀ r a (m.after M i e q) :=
  { h with passed := h.passed.after M i e q }

theorem tracked_invariant :
    Invariant ((engine cron templateRunId).restrict (Guarded cron templateRunId a₀))
      (Tracked cfg cron templateRunId r₀ a₀) := by
  rintro i e q m ⟨htemplate, r, a, hr, hs, htrack⟩ ⟨⟨⟨-, hspare, -⟩, -⟩, hguard⟩
  refine ⟨htemplate.exec hspare.deletes e, ?_⟩
  obtain rfl := Db.runId_of_run hr
  obtain ⟨r', hr', hsame, hchange⟩ := scheduled_change (e := e) hspare hr hs
  have hcron : ∃ expr, r'.cronExpr = some expr ∧ cfg.cronSchedule expr = .ok cron :=
    hsame.cronExpr ▸ htrack.expr
  cases hchange with
  | same hav hl =>
      refine ⟨r', a, hr', hsame.status.trans hs, hcron,
        hsame.maxCatchup.trans htrack.catchup, hav.trans htrack.available, htrack.passed.after _ i e q, fun hst => ?_⟩
      rw [cursor_of_same hl hsame.createdAt]
      exact htrack.close hst
  | @moved next last hq hav hl =>
      subst hq
      obtain ⟨hpassed, l, rfl, hclose⟩ := hguard rfl
      refine ⟨r', next, hr', hsame.status.trans hs, hcron,
        hsame.maxCatchup.trans htrack.catchup, hav, hpassed.after _ i e _, fun _ => ?_⟩
      rw [cursor_of_moved hl]
      exact hclose

end Tracking

/-! ## What a tick does -/

section Ticks
variable {cfg : Config} {cron : Recurrence} {templateRunId : Uuid} {r₀ : RunRow} {a₀ : Int}

/-- Without an outage a tick fires, unless it may not catch up at all. -/
theorem decision_eq_fire {r : RunRow} {a now : Int} (havailable : r.availableAt = some a)
    (hexpr : ∃ expr, r.cronExpr = some expr ∧ cfg.cronSchedule expr = .ok cron)
    (hcatchup : 0 < r.maxCatchup) (hcatchup' : r.maxCatchup < 2 ^ 31)
    (hmissed : Coordinator.missedCount cron (Coordinator.cursor r a) now ≤ 1) :
    Coordinator.decision cfg now r = .fire a (Coordinator.nextOrYear cron a now) := by
  rw [decision_eq havailable hexpr, if_neg (by omega), if_neg]
  have := asUsize_of_nonneg (by omega) hcatchup'
  omega

/-- What a tick knows of the template it read. -/
structure Snapshot (cfg : Config) (cron : Recurrence) (templateRunId : Uuid) (r₀ : RunRow)
    (a₀ now : Int) (t : WorkflowRun) (a : Int) (m : Now) : Prop where
  template : m.store.HasTemplate templateRunId
  due : a ≤ now
  track : OnTrack cfg cron templateRunId r₀ a₀ t.toRunRow a m
  missed : Coordinator.missedCount cron (Coordinator.cursor t.toRunRow a) now ≤ 1
  decision : Coordinator.decision cfg now t.toRunRow = .fire a (Coordinator.nextOrYear cron a now)

/-- When the tick is over, every occurrence up to its time has an instance. -/
def Done (cron : Recurrence) (templateRunId : Uuid) (r₀ : RunRow) (a₀ now : Int)
    (t : WorkflowRun) (m : Now) : Prop :=
  t.runId = templateRunId → (∀ a ∈ t.availableAt, Fired templateRunId a m.trace) ∧
    (Started cron r₀ a₀ → ∀ o, cron.Occurs o → a₀ ≤ o → o ≤ now → Fired templateRunId o m.trace)

theorem Done.after {now : Int} {t : WorkflowRun} {m : Now}
    (h : Done cron templateRunId r₀ a₀ now t m) (M : Engine Stmt Stmt.Result World Env) (i : Nat)
    (e : Env) (q : Stmt) : Done cron templateRunId r₀ a₀ now t (m.after M i e q) := by
  intro ht
  obtain ⟨hslot, hall⟩ := h ht
  exact ⟨fun a ha => (hslot a ha).cons _, fun hst o ho h1 h2 => (hall hst o ho h1 h2).cons _⟩

/-- Nothing is passed over by firing a slot and moving on to the next. -/
theorem passed_nextOrYear {a now : Int} {m : Now} (hpassed : Passed cron templateRunId a₀ a m)
    (hfired : Fired templateRunId a m.trace) :
    Passed cron templateRunId a₀ (Coordinator.nextOrYear cron a now) m := by
  intro o ho h1 h2
  rcases Int.lt_trichotomy o a with hlt | rfl | hgt
  · exact hpassed o ho h1 hlt
  · exact hfired
  · have := nextOrYear_le now ho hgt
    omega

theorem close_nextOrYear {a now : Int} (hdue : a ≤ now) :
    Close cron a (Coordinator.nextOrYear cron a now) := by
  intro o ho hlt
  unfold Coordinator.nextOrYear at hlt
  cases hnext : cron.next a with
  | none =>
      have := Recurrence.le_of_next_none hnext ho
      have hyear : 0 ≤ days 365 := by decide
      rw [hnext, Option.getD_none] at hlt
      omega
  | some next =>
      rw [hnext, Option.getD_some] at hlt
      exact Recurrence.two_le_length (Recurrence.occurs_of_next hnext) ho (cron.lt_next hnext) hlt
        (Int.le_refl o)

/-- Firing the slot that was read leaves no occurrence without an instance. -/
theorem Snapshot.done {now a : Int} {t : WorkflowRun} {m : Now}
    (h : Snapshot cfg cron templateRunId r₀ a₀ now t a m) (hfired : Fired templateRunId a m.trace) :
    Done cron templateRunId r₀ a₀ now t m := by
  intro _
  refine ⟨fun a' ha' => ?_, fun hst o ho h1 h2 => ?_⟩
  · obtain rfl := Option.some.inj (h.track.available.symm.trans ha')
    exact hfired
  · rcases Int.lt_trichotomy o a with hlt | rfl | hgt
    · exact h.track.passed o ho h1 hlt
    · exact hfired
    · have htwo := h.track.close hst o ho hgt
      have hle := Recurrence.occurrences_length_le (c := cron)
        (Int.le_refl (Coordinator.cursor t.toRunRow a)) h2
      have hone := h.missed
      unfold Coordinator.missedCount at htwo hone
      omega

end Ticks

/-! ## Every handler is guarded -/

section Handlers
variable {cfg : Config} {cron : Recurrence} {templateRunId : Uuid} {r₀ : RunRow} {a₀ : Int}

theorem snapshot_invariant (now : Int) (t : WorkflowRun) :
    Invariant ((engine cron templateRunId).restrict (Guarded cron templateRunId a₀)) fun m =>
      t.runId = templateRunId → ∃ a, Snapshot cfg cron templateRunId r₀ a₀ now t a m := by
  intro i e q m hm ha ht
  obtain ⟨a, hsnap⟩ := hm ht
  exact ⟨a, { hsnap with
    template := hsnap.template.exec ha.1.1.2.1.deletes e
    track := hsnap.track.after _ i e q }⟩

theorem coordinatorRule (hcatchup : 0 ≤ r₀.maxCatchup) (hcatchup' : r₀.maxCatchup < 2 ^ 31)
    (i : Nat) :
    CoordinatorRule cfg (engine cron templateRunId) (Guarded cron templateRunId a₀) i
      (Tracked cfg cron templateRunId r₀ a₀)
      (fun now t m => t.runId = templateRunId →
        ∃ a, Snapshot cfg cron templateRunId r₀ a₀ now t a m)
      (fun t a m => t.runId = templateRunId → Fired templateRunId a m.trace)
      (Done cron templateRunId r₀ a₀) where
  inv := tracked_invariant
  snap_steady := fun now t => steady_of_invariant (snapshot_invariant now t)
  made_steady := fun _ _ => steady_of_invariant fun _ _ _ _ hm _ ht => (hm ht).cons _
  done_inv := fun _ _ i e q _ hm _ => hm.after _ i e q
  plain := by
    intro e q m hq _ _
    cases q <;> trivial
  read := by
    intro e m now limit ts hK ha hres t ht hid
    obtain ⟨hrun, -, hdue, -⟩ := mem_findDueSchedules hres ht
    obtain ⟨htemplate, r, a, hr, -, htrack⟩ := hK
    rw [hid, hr] at hrun
    obtain rfl := Option.some.inj hrun
    have hmissed := ha.1.2.2 _ hr a htrack.available
    have hnz : t.maxCatchup ≠ 0 := ha.2 _ hr
    have hmax := htrack.catchup
    have hdecision : Coordinator.decision cfg now t.toRunRow
        = .fire a (Coordinator.nextOrYear cron a now) :=
      decision_eq_fire htrack.available htrack.expr (by omega) (by omega) hmissed
    refine ⟨a, htemplate.exec (Spares.deletes ha.1.2.1) e, ?_, htrack.after _ i e _, hmissed,
      hdecision⟩
    unfold RunRow.due at hdue
    rw [htrack.available] at hdue
    simpa using hdue
  skip := by
    intro e m now t next hd _ hsnap _ hid
    obtain ⟨a, h⟩ := hsnap hid
    rw [h.decision] at hd
    cases hd
  create := fun _ _ _ _ _ _ _ _ _ _ => trivial
  made := by
    intro e m now t fireAt next answer hd _ hsnap ha hres hid
    obtain ⟨a, h⟩ := hsnap hid
    rw [h.decision] at hd
    obtain ⟨rfl, -⟩ := Coordinator.Decision.fire.inj hd
    subst hid
    cases answer with
    | some runId => exact fired_of_answer hres
    | none =>
        obtain ⟨r, hr⟩ := taken_of_none h.template hres
        exact (ha.2 rfl r hr).cons _
  advance := by
    intro e m now t fireAt next hd _ hsnap hmade _ hid
    obtain ⟨a, h⟩ := hsnap hid
    rw [h.decision] at hd
    obtain ⟨rfl, rfl⟩ := Coordinator.Decision.fire.inj hd
    exact ⟨passed_nextOrYear h.track.passed (hmade hid), a, rfl, close_nextOrYear h.due⟩
  ignored := by
    intro m now t hd _ hsnap hid
    obtain ⟨a, h⟩ := hsnap hid
    rw [h.decision] at hd
    cases hd
  refused := fun _ _ _ _ _ _ _ _ _ ha hres => absurd hres (rateCheck_granted ha.1.2.2)
  skipped := by
    intro e m now t next hd _ hsnap _ _ hid
    obtain ⟨a, h⟩ := hsnap hid
    rw [h.decision] at hd
    cases hd
  advanced := by
    intro e m now t fireAt next hd _ hsnap hmade _ _ hid
    obtain ⟨a, h⟩ := hsnap hid
    rw [h.decision] at hd
    obtain ⟨rfl, rfl⟩ := Coordinator.Decision.fire.inj hd
    exact (h.done (hmade hid)).after _ i e _ hid

theorem serves (hcatchup : 0 ≤ r₀.maxCatchup) (hcatchup' : r₀.maxCatchup < 2 ^ 31) :
    Serves (((service cfg).restrict (Regular cron templateRunId)).restrict (Firable templateRunId))
      (Guarded cron templateRunId a₀) (Tracked cfg cron templateRunId r₀ a₀)
      (Reported (Done cron templateRunId r₀ a₀)) (fun _ _ _ _ => True) := by
  refine serves_of_rule rfl (fun req _ hco q hq i e m _ _ => ?_)
    (coordinatorRule hcatchup hcatchup')
  cases q with
  | updateNextFire runId next last =>
      obtain ⟨ticks, rfl⟩ := hq
      exact absurd rfl (hco ticks)
  | _ => trivial

end Handlers

/-- A template that may catch up is fired on time, as long as its slots are
free. -/
theorem on_time_if_firable (cfg : Config) : FiresOnTime cfg Firable := by
  intro cron templateRunId w r₀ a₀ hw ha₀ hcatchup hcatchup' p h
  have hstart : Tracked cfg cron templateRunId r₀ a₀ ⟨w, []⟩ := by
    refine ⟨⟨⟨r₀, hw.run⟩, hw.payload⟩, r₀, a₀, hw.run, hw.status, hw.expr, rfl, ha₀, ?_, ?_⟩
    · intro o _ h1 h2
      omega
    · rintro ⟨hlt, hocc⟩ o ho h2
      exact Recurrence.two_le_length hocc ho hlt h2 (Int.le_refl o)
  obtain ⟨hrun, hsound⟩ := h.sound (serves hcatchup hcatchup') tracked_invariant hstart (sound_nil w)
  obtain ⟨-, r, a, hr, -, htrack⟩ := hrun.invariant tracked_invariant hstart
  constructor
  · intro r' hr' a' ha' o ho h1 h2
    obtain rfl := Option.some.inj (hr.symm.trans hr')
    obtain rfl := Option.some.inj (htrack.available.symm.trans ha')
    exact htrack.passed o ho h1 h2
  · intro i ticks hget ran hran hcaller now ts hb t ht hid
    exact (hsound.result hget ticks rfl rfl ran hran hcaller now ts hb t ht hid).1
  · intro hlt hocc i ticks hget ran hran hcaller now ts hb t ht hid
    exact (hsound.result hget ticks rfl rfl ran hran hcaller now ts hb t ht hid).2 ⟨hlt, hocc⟩

/-! ## A template that is fired -/

/-- One tick fires the first occurrence, and the next the second. -/
def twoTicks : ServerState :=
  fireAll (((service .sample).restrict (Regular tenSeconds 1)).restrict (Firable 1))
    (.init (tenSecondsWorld 50) []) <|
    [.start (.coordinator 2)] ++ runs 0 7 (.quiet 12 2) ++ runs 0 7 (.quiet 21 3)

/-- The occurrences before the next fire time have their instances. -/
theorem on_time_if_firable_twoTicks :
    (twoTicks.store.run 1).map RunRow.availableAt = some (some (seconds 30)) ∧
      Fired 1 (seconds 10) twoTicks.trace ∧ Fired 1 (seconds 20) twoTicks.trace := by
  have hscheduled : Scheduled .sample tenSeconds 1 (tenSecondsWorld 50) (tenSecondsRow 50) :=
    scheduled_tenSeconds (by decide +kernel) (by decide +kernel)
  have hsteps : Steps (((service .sample).restrict (Regular tenSeconds 1)).restrict (Firable 1))
      (.init (tenSecondsWorld 50) []) twoTicks := AllEnabled.steps (by decide +kernel)
  have hnext : (twoTicks.store.run 1).map RunRow.availableAt = some (some (seconds 30)) := by
    decide +kernel
  obtain ⟨r, hr, ha⟩ := Option.map_eq_some_iff.mp hnext
  have hpassed := (on_time_if_firable .sample tenSeconds 1 (tenSecondsWorld 50) (tenSecondsRow 50)
    (seconds 10) hscheduled rfl (by decide) (by decide) _ hsteps).passed
    r hr _ ha
  exact ⟨hnext, hpassed _ ⟨0, rfl⟩ (by decide) (by decide),
    hpassed _ ⟨seconds 10, rfl⟩ (by decide) (by decide)⟩

/-! ## A template that is never fired -/

/-- A tick at the very time the first occurrence is due. -/
def firstTick : List (Action Env Request) :=
  [.start (.coordinator 1)] ++ runs 0 4 (.quiet 10 2)

/-- With `max_catchup = 0` the tick skips the occurrence. -/
theorem not_on_time : ¬ FiresOnTime .sample fun _ _ _ _ _ => True := by
  intro hontime
  have hscheduled : Scheduled .sample tenSeconds 1 (tenSecondsWorld 0) (tenSecondsRow 0) :=
    scheduled_tenSeconds (by decide +kernel) (by decide +kernel)
  let S := ((service .sample).restrict (Regular tenSeconds 1)).restrict fun _ _ _ _ => True
  let p := fireAll S (.init (tenSecondsWorld 0) []) firstTick
  have hsteps : Steps S (.init (tenSecondsWorld 0) []) p := AllEnabled.steps (by decide +kernel)
  have hpunctual := hontime tenSeconds 1 (tenSecondsWorld 0) (tenSecondsRow 0) (seconds 10)
    hscheduled rfl (by decide) (by decide) p hsteps
  obtain ⟨r, hr, hnext⟩ := Option.map_eq_some_iff.mp
    (show (p.store.run 1).map RunRow.availableAt = some (some (seconds 20)) by decide +kernel)
  have hnone : created 1 (seconds 10) p.trace = [] := by decide +kernel
  obtain ⟨runId, hmem⟩ := hpunctual.passed r hr _ hnext (seconds 10) ⟨0, rfl⟩ (Int.le_refl _)
    (by decide)
  rw [hnone] at hmem
  cases hmem

end OnTime

end Kagzi
