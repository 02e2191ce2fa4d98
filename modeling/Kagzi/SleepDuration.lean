import Kagzi.Lease
import Kagzi.Lifecycle
import Kagzi.Unexecuted
import Kagzi.Sdk.Context

/-!
# The duration of a sleep

`sleep_internal` sends a duration of seconds and nanoseconds.  The handler of `Sleep`
cuts it to whole seconds, and takes zero seconds for nothing to do: it answers without
a write, and the run that its worker has given up stays `RUNNING`.

The database multiplies an interval of a second by the number of seconds, as doubles, which
is exact for 18000 years (`covers_iff`) and rounds up or down beyond.

So a run sleeps as long as it was asked to exactly when the interval of its whole seconds is
not shorter, or `Sleep` does not answer (`sleep_lasts_iff`).
-/

namespace Kagzi

open Atomic Relational

namespace SleepDuration

open Sdk
open Unexecuted (handed)

/-- The server, for all requests. -/
abbrev service (cfg : Config) : Service Stmt Stmt.Result World Env Request Status Response :=
  server cfg fun _ => True

/-- The state after the `Sleep` of the call has arrived and was handled in the supply
`e`. -/
def afterSleep (cfg : Config) (p : ServerState) (run : SleepCall) (stepId : String) (e : Env) :
    ServerState :=
  fireAll (service cfg) p [.start (.sleep (run.sleepRequest stepId)), .exec p.calls.length e]

/-- The run sleeps from `t` for `d` nanoseconds, and no poll returns it before that. -/
structure SleepsFor (cfg : Config) (runId : Uuid) (t : Int) (d : Nat) (p : ServerState) : Prop where
  row : ∃ r a, p.store.run runId = some r ∧ r.status = .sleeping ∧ r.lockedBy = none ∧
    r.availableAt = some a ∧ 1000 * t + d ≤ 1000 * a
  unpolled : ∀ p' later, Steps (service cfg) p p' → p'.trace = later ++ p.trace →
    ∀ ran ∈ later, handed ran = some runId → 1000 * t + d ≤ 1000 * ran.env.now

/-- When `Sleep` has answered, the run sleeps as long as it was asked to, from the time at
which its transaction has begun. -/
def Lasts (cfg : Config) (p : ServerState) (run : SleepCall) (stepId : String) (runId : Uuid)
    (e : Env) : Prop :=
  (afterSleep cfg p run stepId e).returned p.calls.length =
      some (.sleep (run.sleepRequest stepId), .sleep) →
    SleepsFor cfg runId e.began run.duration.asNanos (afterSleep cfg p run stepId e)

/-- Every `Sleep` of a run that is running lasts as long as it was asked to. -/
def EverySleepLasts (cfg : Config) : Prop :=
  ∀ (w : World) (p : ServerState), Steps (service cfg) (.init w []) p →
    ∀ (run : SleepCall) (stepId : String) (runId : Uuid) (e : Env),
      cfg.parseUuid run.runId = some runId → p.store.HasStatus runId .running →
        run.duration.secs < 2 ^ 64 → 0 < run.duration.asNanos → p.store.now ≤ e.now →
          e.began ≤ e.now → Lasts cfg p run stepId runId e

/-- The interval that the database makes of the whole seconds is not shorter than the
duration. -/
def Covers (d : Duration) : Prop := d.asNanos ≤ 1000 * seconds d.secs

/-- The duration has a second, and the interval covers it, or the call fails: the seconds are
no `i64`, or the database refuses the row or is not there. -/
def Whole (db : Db) (e : Env) (r : RunRow) (d : Duration) : Prop :=
  2 ^ 63 ≤ d.secs ∨
    (0 < d.secs ∧ (Covers d ∨ e.fault = true ∨ ¬ db.FitsInPlace (r.sleep d.secs e.began)))

/-- Up to 18000 years, the durations that are covered are those of whole seconds. -/
theorem covers_iff {d : Duration} (h : d.secs ≤ 576460752303) : Covers d ↔ d.nanos = 0 := by
  have hsecs : seconds d.secs = d.secs * 1000000 := seconds_exact (by omega) (by omega)
  unfold Covers Duration.asNanos
  rw [hsecs]
  push_cast
  omega

/-! ## The handler -/

section Handler
variable {cfg : Config} {p : ServerState} {run : SleepCall} {stepId : String} {runId : Uuid} {e : Env}

/-- What the handler makes of the duration it is sent. -/
theorem durationSecs_sent (h : run.duration.secs < 2 ^ 64) :
    WorkerService.durationSecs ⟨asI64 run.duration.secs, run.duration.nanos⟩ =
      if run.duration.secs < 2 ^ 63 then some run.duration.secs else none := by
  have hnanos := run.duration.nanos_lt
  have hmod : (run.duration.secs : Int) % 2 ^ 64 = run.duration.secs := by omega
  simp only [WorkerService.durationSecs, asI64, Nat.mod_eq_of_lt h, hmod]
  by_cases hs : run.duration.secs < 2 ^ 63
  · rw [if_pos hs, if_pos hs, if_neg (by omega)]
    congr 1
    omega
  · rw [if_neg hs, if_neg hs, if_pos (by omega)]

/-- The program of a `Sleep` whose seconds are an `i64`. -/
theorem handle_sleep (hid : cfg.parseUuid run.runId = some runId)
    (h : run.duration.secs < 2 ^ 63) :
    handle cfg (.sleep (run.sleepRequest stepId)) =
      if run.duration.secs = 0 then .ret .sleep
      else call (WorkflowRepository.scheduleSleep runId run.duration.secs) >>= fun _ => .ret .sleep := by
  have hsecs := @durationSecs_sent run (by omega)
  rw [if_pos h] at hsecs
  simp only [handle, WorkerService.sleep, Config.uuid, SleepCall.sleepRequest, hid, orFail, hsecs,
    Prog.ret_bind, Prog.pure_eq]

/-- The program of a `Sleep` whose seconds are not. -/
theorem handle_long (hid : cfg.parseUuid run.runId = some runId)
    (h : run.duration.secs < 2 ^ 64) (hlong : 2 ^ 63 ≤ run.duration.secs) :
    handle cfg (.sleep (run.sleepRequest stepId)) =
      .fail (invalidArgumentError "duration must be non-negative") := by
  have hsecs := durationSecs_sent h
  rw [if_neg (by omega)] at hsecs
  simp only [handle, WorkerService.sleep, Config.uuid, SleepCall.sleepRequest, hid, orFail, hsecs,
    Prog.ret_bind, Prog.fail_bind]

/-- A `Sleep` whose duration is cut to zero seconds is answered at once. -/
theorem afterSleep_zero (hid : cfg.parseUuid run.runId = some runId) (h : run.duration.secs = 0) :
    afterSleep cfg p run stepId e =
      ⟨p.toMoment, p.calls ++ [(.sleep (run.sleepRequest stepId), .ret .sleep)]⟩ := by
  have hs : (service cfg).spawn (.sleep (run.sleepRequest stepId)) = .ret .sleep :=
    (handle_sleep hid (by omega)).trans (if_pos h)
  have hdone : ∀ q k, (service cfg).spawn (.sleep (run.sleepRequest stepId)) ≠ .call q k := by
    intro q k
    rw [hs]
    exact nofun
  exact (fireAll_arrival_done hdone).trans (by rw [hs])

/-- A `Sleep` whose seconds are no `i64` is refused. -/
theorem not_returned_long (hid : cfg.parseUuid run.runId = some runId)
    (h : run.duration.secs < 2 ^ 64) (hlong : 2 ^ 63 ≤ run.duration.secs) :
    (afterSleep cfg p run stepId e).returned p.calls.length = none := by
  have hs : (service cfg).spawn (.sleep (run.sleepRequest stepId)) = _ := handle_long hid h hlong
  have hdone : ∀ q k, (service cfg).spawn (.sleep (run.sleepRequest stepId)) ≠ .call q k := by
    intro q k
    rw [hs]
    exact nofun
  rw [afterSleep, fireAll_arrival_done hdone, hs]
  simp [Pool.returned]

/-- Any other `Sleep` makes its statement, and answers if that succeeds. -/
theorem afterSleep_call (hid : cfg.parseUuid run.runId = some runId)
    (hpos : 0 < run.duration.secs) (hlt : run.duration.secs < 2 ^ 63) :
    ∃ c, afterSleep cfg p run stepId e =
        ⟨p.toMoment.after store p.calls.length e (.scheduleSleep runId run.duration.secs),
          p.calls ++ [(.sleep (run.sleepRequest stepId), c)]⟩ ∧
      (c = .ret .sleep ↔
        ∃ hit, (store.exec e (.scheduleSleep runId run.duration.secs) p.store).1 = .ok hit) := by
  have hs : (service cfg).spawn (.sleep (run.sleepRequest stepId)) =
      (call (WorkflowRepository.scheduleSleep runId run.duration.secs) >>= fun _ => .ret .sleep) :=
    (handle_sleep hid hlt).trans (if_neg (by omega))
  refine ⟨_, fireAll_arrival hs, ?_⟩
  show _ ↔ ∃ hit, _ = Except.ok hit
  cases hres : (store.exec e (.scheduleSleep runId run.duration.secs) p.store).1 with
  | ok hit =>
      rw [show ((service cfg).exec e (.scheduleSleep runId run.duration.secs) p.store).1 = .ok hit
        from hres]
      exact ⟨fun _ => ⟨hit, rfl⟩, fun _ => rfl⟩
  | error x =>
      rw [show ((service cfg).exec e (.scheduleSleep runId run.duration.secs) p.store).1 = .error x
        from hres]
      exact ⟨nofun, nofun⟩

/-- The statement of a `Sleep` succeeds when it does not fault and its row fits. -/
theorem scheduleSleep_ok_iff {secs : Nat} {r : RunRow} (hr : p.store.run runId = some r)
    (hs : r.status = .running) :
    (∃ hit, (store.exec e (.scheduleSleep runId secs) p.store).1 = .ok hit) ↔
      e.fault = false ∧ p.store.db.FitsInPlace (r.sleep secs e.began) := by
  have hfits := updateAt_ok_iff (e := e) (f := RunRow.sleep secs) (fun _ _ => rfl)
    (show p.store.db.run runId = some r from hr) hs
  rw [← hfits]
  cases hfault : e.fault with
  | true =>
      rw [store_exec_fst, Stmt.exec_of_fault hfault rfl]
      simp
  | false =>
      rw [store_exec_fst, Stmt.exec_of_safe hfault]
      exact ⟨fun h => ⟨rfl, h⟩, fun h => h.2⟩

/-- The row of a run that was sent to sleep. -/
theorem run_of_scheduleSleep {secs : Nat} {r : RunRow} {hit : Bool} (hr : p.store.run runId = some r)
    (hs : r.status = .running)
    (h : (store.exec e (.scheduleSleep runId secs) p.store).1 = .ok hit) :
    (store.exec e (.scheduleSleep runId secs) p.store).2.run runId = some (r.sleep secs e.began) := by
  have hstmt : ((Stmt.scheduleSleep runId secs).exec e p.store.db).1 = .ok hit := h
  rw [store_exec_run]
  have hsql := Stmt.exec_ok hstmt
  rw [hsql] at hstmt ⊢
  refine (updateAt_ok (f := RunRow.sleep secs) (fun _ _ => rfl) hstmt).trans ?_
  rw [show p.store.db.run runId = some r from hr, Option.map_some, if_pos hs]

end Handler

/-! ## The polls that follow -/

/-- No poll takes the run before `d`. -/
def Rests (runId : Uuid) (d : Int) (m : Now) : Prop :=
  d ≤ m.store.now ∨ (m.store.run runId = none ∧ runId ∈ m.store.retired) ∨
    ∃ r, m.store.run runId = some r ∧ (r.status.isClaimable = true →
      r.status ≠ .running ∧ ∃ a, r.availableAt = some a ∧ d ≤ a)

theorem rests_kept (settings : WorkerSettings) (runId : Uuid) (d : Int) :
    Invariant (store.restrict (Lease.Guarded settings)) (Rests runId d) := by
  intro i e q m hm ha
  obtain ⟨⟨hnow, hfresh, -⟩, hq⟩ := ha
  have hlater : d ≤ m.store.now → Rests runId d (m.after store i e q) :=
    fun h => .inl (Int.le_trans h hnow)
  rcases hm with hm | ⟨hnone, hgone⟩ | ⟨r, hr, hrest⟩
  · exact hlater hm
  · exact .inr (.inl ⟨World.stays_gone hnone hgone hfresh, List.mem_append_left _ hgone⟩)
  · have hc := q.exec_run e m.store.db runId
    rw [show m.store.db.run runId = some r from hr] at hc
    have hkeep : ∀ r', (q.exec e m.store.db).2.run runId = some r' →
        (r'.status.isClaimable = true → r'.status ≠ .running ∧ ∃ a, r'.availableAt = some a ∧ d ≤ a) →
        Rests runId d (m.after store i e q) := fun r' hr' h => .inr (.inr ⟨r', hr', h⟩)
    cases hnew : (q.exec e m.store.db).2.run runId with
    | none => exact .inr (.inl ⟨hnew, List.mem_append_right _ (Db.mem_deleted hr hnew)⟩)
    | some r' =>
        rw [hnew] at hc
        have hrunning : r.status = .running → False := fun hs =>
          (hrest (by rw [hs]; rfl)).1 hs
        refine Or.elim (Classical.em (d ≤ e.now)) (fun hpast => .inl hpast) fun hpast => ?_
        refine hkeep r' hnew ?_
        cases hc with
        | same => exact hrest
        | claimed hav =>
            obtain ⟨-, a, ha, hda⟩ := hrest (Lifecycle.claimable_of_available hav)
            simp only [RunRow.available, RunRow.due, ha, Bool.and_eq_true, decide_eq_true_eq] at hav
            exact absurd (Int.le_trans hda hav.1.1.2) hpast
        | extended _ hs => exact (hrunning hs).elim
        | cancelledRunning hs => exact (hrunning hs).elim
        | cancelledWaiting _ =>
            intro h
            cases h
        | completed hs => exact (hrunning hs).elim
        | failed hs => exact (hrunning hs).elim
        | slept hs => exact (hrunning hs).elim
        | retried hs => exact (hrunning hs).elim
        | nextFired =>
            have ht := WorkflowStatus.template_not_claimable (hq r (Db.runId_of_run hr ▸ hr))
            exact fun hclaim => absurd (ht.symm.trans hclaim) (by simp)
        | overwritten =>
            have ht := WorkflowStatus.template_not_claimable hq
            exact fun hclaim => absurd (ht.symm.trans hclaim) (by simp)
        | orphaned _ _ => exact hrest

/-- A poll that hands out the run comes at `d` or later. -/
theorem Rests.handed {runId : Uuid} {d : Int} {i : Nat} {e : Env} {q : Stmt} {m : Now}
    (hm : Rests runId d m) (hnow : m.store.now ≤ e.now)
    (h : handed ⟨i, e, q, (store.exec e q m.store).1⟩ = some runId) : d ≤ e.now := by
  unfold Unexecuted.handed at h
  split at h
  next ns taskQueue worker types secs item heq =>
    obtain ⟨-, rfl, rfl, hres⟩ := Event.mk.inj heq
    obtain ⟨r, hpicked, hid, -⟩ := claimed_of_pollWorkflow (eq_of_heq hres)
    obtain ⟨hrun, hav⟩ := Db.run_of_picked hpicked
    rw [hid, Option.some.inj h] at hrun
    rcases hm with hm | ⟨hnone, -⟩ | ⟨r', hr', hrest⟩
    · exact Int.le_trans hm hnow
    · exact absurd (hnone.symm.trans hrun) (by simp)
    · obtain rfl := Option.some.inj (hr'.symm.trans hrun)
      obtain ⟨-, a, ha, hda⟩ := hrest (Lifecycle.claimable_of_available hav)
      simp only [RunRow.available, RunRow.due, ha, Bool.and_eq_true, decide_eq_true_eq] at hav
      exact Int.le_trans hda hav.1.1.2
  next => cases h

/-- The statements since the trace `base` hand the run out at `d` or later. -/
def Unpolled (runId : Uuid) (d : Int) (base : List Ran) (m : Now) : Prop :=
  Rests runId d m ∧ ∀ later, m.trace = later ++ base → ∀ ran ∈ later,
    handed ran = some runId → d ≤ ran.env.now

theorem unpolled_kept (settings : WorkerSettings) (runId : Uuid) (d : Int) (base : List Ran) :
    Invariant (store.restrict (Lease.Guarded settings)) (Unpolled runId d base) := by
  intro i e q m hm ha
  refine ⟨rests_kept settings runId d i e q m hm.1 ha, fun later htrace ran hran hhanded => ?_⟩
  cases later with
  | nil => cases hran
  | cons first later =>
      obtain ⟨rfl, htail⟩ := List.cons.inj htrace
      rcases List.mem_cons.mp hran with rfl | hran
      · exact hm.1.handed ha.1.1 hhanded
      · exact hm.2 later htail ran hran hhanded

/-! ## The result -/

section Result
variable {cfg : Config} {w : World} {p : ServerState} {runId : Uuid} {r : RunRow} {e : Env}

/-- A run that has been sent to sleep is not returned before the interval is over. -/
theorem sleepsFor_of_slept {t : Int} {secs d : Nat} (h : Steps (service cfg) (.init w []) p)
    (hr : p.store.run runId = some (r.sleep secs t)) (hd : (d : Int) ≤ 1000 * seconds secs) :
    SleepsFor cfg runId t d p := by
  have hspan : 1000 * t + (d : Int) ≤ 1000 * (t + seconds secs) := by omega
  constructor
  · exact ⟨_, _, hr, rfl, rfl, rfl, hspan⟩
  · intro p' later h' htrace ran hran hhanded
    have hinv : Invariant (store.restrict (Lease.Guarded cfg.worker)) fun _ => True :=
      fun _ _ _ _ _ _ => trivial
    obtain ⟨-, hp⟩ := h.sound (Lease.serves cfg) hinv trivial (sound_nil w)
    obtain ⟨hrun, -⟩ := h'.sound (Lease.serves cfg) hinv trivial hp
    have hsleeping : (r.sleep secs t).status = .sleeping := rfl
    have hrests : Rests runId (t + seconds secs) p.toMoment :=
      .inr (.inr ⟨r.sleep secs t, hr, fun _ =>
        ⟨by rw [hsleeping]; decide, t + seconds secs, rfl, Int.le_refl _⟩⟩)
    have hstart : Unpolled runId (t + seconds secs) p.trace p.toMoment := by
      refine ⟨hrests, fun later hnil ran hran => ?_⟩
      obtain rfl : later = [] := by simpa using hnil
      cases hran
    have hlate := (hrun.invariant (unpolled_kept cfg.worker runId _ p.trace) hstart).2 later htrace
      ran hran hhanded
    omega

theorem steps_afterSleep {run : SleepCall} {stepId : String}
    (hid : cfg.parseUuid run.runId = some runId) (hpos : 0 < run.duration.secs)
    (hlt : run.duration.secs < 2 ^ 63) (hnow : p.store.now ≤ e.now) (hbegan : e.began ≤ e.now) :
    Steps (service cfg) p (afterSleep cfg p run stepId e) := by
  have hs : (service cfg).spawn (.sleep (run.sleepRequest stepId)) =
      (call (WorkflowRepository.scheduleSleep runId run.duration.secs) >>= fun _ => .ret .sleep) :=
    (handle_sleep hid hlt).trans (if_neg (by omega))
  exact steps_arrival trivial hs ⟨hnow, nofun, hbegan⟩

/-- In every reachable state, a `Sleep` of `sleep_internal` for a run that is running
lasts as long as it was asked to exactly if the interval of its whole seconds covers its
duration, or the call fails. -/
theorem sleep_lasts_iff (cfg : Config) {w : World} {p : ServerState}
    (h : Steps (service cfg) (.init w []) p) {run : SleepCall} {stepId : String} {runId : Uuid}
    (hid : cfg.parseUuid run.runId = some runId) {r : RunRow} (hr : p.store.run runId = some r)
    (hs : r.status = .running) (hlt : run.duration.secs < 2 ^ 64) {e : Env}
    (hnow : p.store.now ≤ e.now) (hbegan : e.began ≤ e.now) :
    Lasts cfg p run stepId runId e ↔ Whole p.store.db e r run.duration := by
  by_cases hlong : 2 ^ 63 ≤ run.duration.secs
  · refine ⟨fun _ => .inl hlong, fun _ hret => ?_⟩
    rw [not_returned_long hid hlt hlong] at hret
    cases hret
  by_cases hzero : run.duration.secs = 0
  -- the run is left as it is
  · constructor
    · intro hlasts
      unfold Lasts at hlasts
      rw [afterSleep_zero hid hzero] at hlasts
      obtain ⟨r', a, hr', hs', -⟩ := (hlasts (by simp [Pool.returned])).row
      obtain rfl := Option.some.inj (hr.symm.trans hr')
      rw [hs] at hs'
      cases hs'
    · rintro (hle | ⟨hpos, -⟩) <;> omega
  have hpos : 0 < run.duration.secs := by omega
  have hlt' : run.duration.secs < 2 ^ 63 := by omega
  obtain ⟨c, hafter, hc⟩ := @afterSleep_call cfg p run stepId runId e hid hpos hlt'
  have hreturned : (afterSleep cfg p run stepId e).returned p.calls.length =
      some (.sleep (run.sleepRequest stepId), .sleep) ↔ c = .ret .sleep := by
    rw [hafter]
    cases c <;> simp [Pool.returned]
  have hrow : c = .ret .sleep → (afterSleep cfg p run stepId e).store.run runId =
      some (r.sleep run.duration.secs e.began) := by
    intro hret
    obtain ⟨hit, hok⟩ := hc.mp hret
    rw [hafter]
    exact run_of_scheduleSleep hr hs hok
  have hok := @scheduleSleep_ok_iff p runId e run.duration.secs r hr hs
  constructor
  · intro hlasts
    refine .inr ⟨hpos, ?_⟩
    by_contra hno
    simp only [not_or, Bool.not_eq_true, Classical.not_not] at hno
    obtain ⟨hshort, hsafe, hfits⟩ := hno
    have hret : c = .ret .sleep := hc.mpr (hok.mpr ⟨hsafe, hfits⟩)
    obtain ⟨r', a, hr', -, -, ha, hle⟩ := (hlasts (hreturned.mpr hret)).row
    obtain rfl := Option.some.inj ((hrow hret).symm.trans hr')
    obtain rfl := Option.some.inj ha
    refine hshort ?_
    unfold Covers
    omega
  · rintro (hle | ⟨-, hwhole⟩) hret
    · omega
    · have hret' := hreturned.mp hret
      obtain ⟨hsafe, hfits⟩ := hok.mp (hc.mp hret')
      have hcovers : Covers run.duration := by
        rcases hwhole with hcovers | hfault | hno
        · exact hcovers
        · rw [hsafe] at hfault
          cases hfault
        · exact absurd hfits hno
      exact sleepsFor_of_slept (h.trans (steps_afterSleep hid hpos hlt' hnow hbegan)) (hrow hret')
        hcovers

end Result

/-- A run that a worker holds. -/
def held : ServerState :=
  fireAll (service .sample) (.init (.empty 0) [])
    ([.start (.startWorkflow ⟨"job", "queue", "type", none, "ns", "", none⟩)] ++
      runs 0 6 (.quiet 0 1) ++
    [.start (.register ⟨"ns", "queue", ["type"], "host", 7, ""⟩)] ++ runs 1 1 (.quiet 0 2) ++
    [.start (.pollTask ⟨"queue", "2", "ns", ["type"]⟩ 0)] ++ runs 2 2 (.quiet 0 3))

theorem held_steps : Steps (service .sample) (.init (.empty 0) []) held :=
  AllEnabled.steps (by decide +kernel)

/-- A call of `sleep_internal` for it. -/
def nap (duration : Duration) : SleepCall := ⟨"ns", "1", "nap", duration, false, false⟩

theorem sleep_lasts_iff_two_seconds :
    Lasts .sample held (nap ⟨2, 0, by omega⟩) "nap" 1 (.quiet 1 4) := by
  have hstatus : (held.store.run 1).map RunRow.status = some .running := by decide +kernel
  obtain ⟨r, hr, hs⟩ := Option.map_eq_some_iff.mp hstatus
  have hnow : held.store.now ≤ (Env.quiet 1 4).now := by decide +kernel
  have hid : Config.sample.parseUuid (nap ⟨2, 0, by omega⟩).runId = some 1 := by decide
  exact (sleep_lasts_iff .sample held_steps hid hr hs (by decide) hnow (Int.le_refl _)).mpr
    (.inr ⟨by decide, .inl ((covers_iff (by decide)).mpr rfl)⟩)

/-- A sleep of one and a half seconds lasts one. -/
theorem sleep_is_short : ¬ EverySleepLasts .sample := by
  intro hlasts
  have hstatus : (held.store.run 1).map RunRow.status = some .running := by decide +kernel
  obtain ⟨r, hr, hs⟩ := Option.map_eq_some_iff.mp hstatus
  have hnow : held.store.now ≤ (Env.quiet 1 4).now := by decide +kernel
  have hreturned : (afterSleep .sample held (nap ⟨1, 500000000, by omega⟩) "nap" (.quiet 1 4)).returned
      held.calls.length = some (.sleep ((nap ⟨1, 500000000, by omega⟩).sleepRequest "nap"), .sleep) := by
    decide +kernel
  have hafter : ((afterSleep .sample held (nap ⟨1, 500000000, by omega⟩) "nap" (.quiet 1 4)).store.run
      1).map RunRow.availableAt = some (some (seconds 2)) := by
    decide +kernel
  obtain ⟨r', a, hr', -, -, ha, hle⟩ := (hlasts _ held held_steps (nap ⟨1, 500000000, by omega⟩) "nap" 1
    (.quiet 1 4) (by decide) ⟨r, hr, hs⟩ (by decide) (by decide) hnow (Int.le_refl _) hreturned).row
  rw [hr', Option.map_some, ha] at hafter
  obtain rfl := Option.some.inj (Option.some.inj hafter)
  exact absurd hle (by decide)

end SleepDuration

end Kagzi
