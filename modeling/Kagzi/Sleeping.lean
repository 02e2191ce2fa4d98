import Kagzi.Lifecycle
import Kagzi.Unexecuted
import Kagzi.Store.StepChange
import Kagzi.Sdk.Context

/-!
# Sleeps are slept

`Context::sleep` is two requests: `BeginStep` opens a step of kind `SLEEP`, and
`Sleep` takes the run out of the reach of polls for the duration.  The step is
completed by the poll that takes the run afterwards, and that poll completes every
open sleep step of the run without a look at how the run came to be claimable.
When the worker crashes between its two requests the run stays `RUNNING`, and the
poll that takes it over completes a sleep that was never slept
(`sleep_is_not_slept`).

A step is slept when every poll that takes its run comes after a `Sleep` that was
applied since the step was begun, that `Sleep` covers the whole duration, and
nothing else completes the step (`sleeps_are_slept_if_rested`).
-/

namespace Kagzi

open Atomic

namespace Sleeping

open Sdk
open Unexecuted (handed)

/-! ## Executions that sleep -/

/-- What runs against the store: a request, or a call of `sleep_internal`. -/
inductive Traffic where
  | request (req : Request)
  | sleep (run : SleepCall)

inductive Reply where
  | response (resp : Response)
  /-- The step is completed, and the workflow goes on. -/
  | slept

/-- The server and the calls of `sleep_internal`, without the requests that manage
schedules.  A call that never goes on has crashed, or has lost a response. -/
def service (cfg : Config) : Service Stmt Stmt.Result World Env Traffic StepError Reply :=
  { store with
    spawn := fun
      | .request req => (handle cfg req).mapError .status >>= fun resp => .ret (.response resp)
      | .sleep run => run.call cfg >>= fun _ => .ret .slept
    accepts := fun
      | .request req => req.managesSchedules = false
      | .sleep _ => True }

instance (cfg : Config) : DecidablePred (service cfg).accepts
  | .request req => inferInstanceAs (Decidable (req.managesSchedules = false))
  | .sleep _ => .isTrue trivial

instance (cfg : Config) (i : Nat) (e : Env) (q : Stmt) (m : Now) :
    Decidable ((service cfg).admits i e q m) :=
  inferInstanceAs (Decidable (store.admits i e q m))

abbrev SleepState := Pool Stmt Stmt.Result World Env Traffic StepError Reply

/-! ## What is claimed -/

/-- The step of which the statement inserted a running attempt. -/
def opened : Ran → Option (Uuid × String)
  | ⟨_, _, .supersede step, .ok true⟩ =>
      if step.status = .running then some (step.runId, step.stepId) else none
  | ⟨_, _, .insertStep step, .ok ()⟩ =>
      if step.status = .running then some (step.runId, step.stepId) else none
  | _ => none

/-- The run that the statement sent to sleep. -/
def rested : Ran → Option Uuid
  | ⟨_, _, .scheduleSleep target _, .ok true⟩ => some target
  | _ => none

/-- The statement opened the step. -/
abbrev Begins (runId : Uuid) (stepId : String) (ran : Ran) : Prop :=
  opened ran = some (runId, stepId)

/-- The statement sent the run to sleep. -/
abbrev Rests (runId : Uuid) (ran : Ran) : Prop := rested ran = some runId

/-- One second, in nanoseconds. -/
def second : Nat := 1000000000

/-- The step was last opened for a sleep of at least a second, of `d` nanoseconds,
and `since` ran after that.  `asks i` is the duration the caller `i` asks for. -/
inductive Begun (asks : Nat → Option Nat) (runId : Uuid) (stepId : String) (d : Nat) :
    List Ran → List Ran → Prop where
  | opened {b : Ran} {trace : List Ran} :
      Begins runId stepId b → asks b.caller = some d → second ≤ d →
      Begun asks runId stepId d (b :: trace) []
  | later {ran : Ran} {trace since : List Ran} :
      ¬ Begins runId stepId ran → Begun asks runId stepId d trace since →
      Begun asks runId stepId d (ran :: trace) (ran :: since)

/-- The time is at least `d` after a `Sleep` was applied.  Its time is that of its
transaction. -/
def Rested (runId : Uuid) (d : Nat) (since : List Ran) (t : Int) : Prop :=
  ∃ z ∈ since, Rests runId z ∧ 1000 * z.env.began + d ≤ 1000 * t

/-- The durations that the calls of `sleep_internal` ask for. -/
def asked (p : SleepState) (i : Nat) : Option Nat :=
  match p.calls[i]? with
  | some (.sleep run, _) => some run.duration.asNanos
  | _ => none

/-- The latest attempt of the step has the status. -/
def StepAt (w : World) (runId : Uuid) (stepId : String) (status : StepStatus) : Prop :=
  ∃ s, w.latest runId stepId = some s ∧ s.status = status

/-- Where a sleep step is completed, and so where it has just become so, the time is
at least its duration after a `Sleep` that was applied since the step was begun. -/
def SleepsAreSlept (S : (Nat → Option Nat) →
    Service Stmt Stmt.Result World Env Traffic StepError Reply) : Prop :=
  ∀ (w : World) (p : SleepState), Steps (S (asked p)) (.init w []) p →
    ∀ runId stepId d since, Begun (asked p) runId stepId d p.trace since →
      StepAt p.store runId stepId .completed → Rested runId d since p.store.now

/-! ## The condition -/

/-- The step is not a sleep that is still to be completed. -/
def Settled (asks : Nat → Option Nat) (runId : Uuid) (stepId : String) (m : Now) : Prop :=
  ∀ d since, Begun asks runId stepId d m.trace since → StepAt m.store runId stepId .completed

/-- The open sleep steps of a run that a poll takes have seen a `Sleep` since they
were begun, and none is begun between the poll and its completion of the sleeps.  A
`Sleep` lasts as long as the open sleep steps that have seen none.  No other
statement completes a sleep. -/
def Restful (asks : Nat → Option Nat) : Condition Stmt Stmt.Result World Env := fun i e q m =>
  match q with
  | .pollWorkflow ns taskQueue _ types _ =>
      ∀ r, m.store.db.picked ns taskQueue types e = some r → ∀ stepId d since,
        Begun asks r.runId stepId d m.trace since → StepAt m.store r.runId stepId .running →
          ∃ z ∈ since, Rests r.runId z
  | .completePendingSleeps runId =>
      ∀ later c earlier, m.trace = later ++ c :: earlier → c.caller = i → handed c = some runId →
        ∀ stepId d since, Begun asks runId stepId d m.trace since →
          StepAt m.store runId stepId .running → ∀ ran ∈ later, ¬ Begins runId stepId ran
  | .scheduleSleep runId secs =>
      m.store.HasStatus runId .running → ∀ stepId d since,
        Begun asks runId stepId d m.trace since → StepAt m.store runId stepId .running →
          (∀ z ∈ since, ¬ Rests runId z) → d ≤ 1000 * seconds secs
  | .completeRunningStep runId stepId _ =>
      StepAt m.store runId stepId .running → Settled asks runId stepId m
  | .recordLatestStep runId stepId status _ _ => status = .completed → Settled asks runId stepId m
  | .supersede step => step.status = .completed → Settled asks step.runId step.stepId m
  | .insertStep step => step.status = .completed → Settled asks step.runId step.stepId m
  | _ => True

/-! ## The invariant -/

/-- The caller has taken the run in a poll. -/
def Took (i : Nat) (runId : Uuid) (m : Now) : Prop :=
  ∃ c ∈ m.trace, c.caller = i ∧ handed c = some runId

/-- A poll completes the sleeps of the run it has taken.  No event is recorded as
running. -/
def Own : Condition Stmt Stmt.Result World Env := fun i _ q m =>
  match q with
  | .completePendingSleeps runId => Took i runId m
  | .recordLatestStep _ _ status _ _ => status ≠ .running
  | _ => True

/-- The run is asleep until the duration has passed, or it is over. -/
def Asleep (w : World) (runId : Uuid) (d : Nat) (since : List Ran) : Prop :=
  ∃ r, w.run runId = some r ∧
    (r.status.isTerminal = true ∨
      r.status = .sleeping ∧ ∃ t, r.availableAt = some t ∧ Rested runId d since t)

/-- A step that has been slept is completed.  An open step whose run was sent to
sleep is slept, or the run still sleeps, and it was slept when a poll took the
run. -/
structure Tracked (asks : Nat → Option Nat) (runId : Uuid) (stepId : String) (d : Nat)
    (since : List Ran) (m : Now) : Prop where
  resting : StepAt m.store runId stepId .running → (∃ z ∈ since, Rests runId z) →
    Rested runId d since m.store.now ∨ Asleep m.store runId d since
  taken : StepAt m.store runId stepId .running → ∀ later c earlier, since = later ++ c :: earlier →
    handed c = some runId → Rested runId d earlier c.env.now
  completed : StepAt m.store runId stepId .completed → Rested runId d since m.store.now

section Tracking
variable {asks : Nat → Option Nat} {runId : Uuid} {stepId : String} {d : Nat} {since : List Ran}
variable {i : Nat} {e : Env} {q : Stmt} {m : Now}

theorem Rested.mono {t t' : Int} (h : Rested runId d since t) (ht : t ≤ t') :
    Rested runId d since t' := by
  obtain ⟨z, hz, hrests, hd⟩ := h
  exact ⟨z, hz, hrests, by omega⟩

theorem Rested.cons {t : Int} (ran : Ran) (h : Rested runId d since t) :
    Rested runId d (ran :: since) t := by
  obtain ⟨z, hz, h⟩ := h
  exact ⟨z, List.mem_cons_of_mem _ hz, h⟩

theorem opens_iff {step : NewStep} :
    (if step.status = .running then some (step.runId, step.stepId) else none) =
      some (runId, stepId) ↔ step.runId = runId ∧ step.stepId = stepId ∧ step.status = .running := by
  split
  next hs => simp [hs]
  next hs => simp [hs]

/-- A statement that opens the step leaves it running. -/
theorem running_of_begins (h : Begins runId stepId ⟨i, e, q, (store.exec e q m.store).1⟩) :
    StepAt (store.exec e q m.store).2 runId stepId .running := by
  cases q with
  | supersede step =>
      cases hres : (store.exec e (.supersede step) m.store).1 with
      | error x => rw [hres] at h; cases h
      | ok hit =>
          cases hit with
          | false => rw [hres] at h; cases h
          | true =>
              rw [hres] at h
              obtain ⟨rfl, rfl, hs⟩ := opens_iff.mp h
              have hstmt : ((Stmt.supersede step).exec e m.store.db).1 = .ok true := hres
              have hsql := Stmt.exec_ok hstmt
              rw [hsql] at hstmt
              obtain ⟨row, hrow, hstatus, -⟩ := supersede_hit hstmt
              refine ⟨row, ?_, hstatus.trans hs⟩
              rw [store_exec_latest, hsql]
              exact hrow
  | insertStep step =>
      cases hres : (store.exec e (.insertStep step) m.store).1 with
      | error x => rw [hres] at h; cases h
      | ok u =>
          rw [hres] at h
          obtain ⟨rfl, rfl, hs⟩ := opens_iff.mp h
          have hstmt : ((Stmt.insertStep step).exec e m.store.db).1 = .ok u := hres
          have hsql := Stmt.exec_ok hstmt
          rw [hsql] at hstmt
          obtain ⟨row, hrow, hstatus, -⟩ := insertStep_hit hstmt
          refine ⟨row, ?_, hstatus.trans hs⟩
          rw [store_exec_latest, hsql]
          exact hrow
  | _ => cases h

/-- A statement that could open the step and did not has changed nothing. -/
theorem kept_of_not_begins {step : NewStep} (hstep : q.inserted = some step)
    (hid : step.runId = runId ∧ step.stepId = stepId) (hs : step.status = .running)
    (h : ¬ Begins runId stepId ⟨i, e, q, (store.exec e q m.store).1⟩) :
    (q.exec e m.store.db).2 = m.store.db := by
  cases q with
  | supersede step =>
      obtain rfl := Option.some.inj hstep
      rcases (Stmt.supersede step).exec_cases e m.store.db with hx | hx
      · rw [hx]
      · rw [hx]
        refine supersede_miss fun hok => h ?_
        have hans : (store.exec e (.supersede step) m.store).1 = .ok true := by
          rw [store_exec_fst, hx]
          exact hok
        rw [hans]
        exact opens_iff.mpr ⟨hid.1, hid.2, hs⟩
  | insertStep step =>
      obtain rfl := Option.some.inj hstep
      rcases (Stmt.insertStep step).exec_cases e m.store.db with hx | hx
      · rw [hx]
      · rw [hx]
        refine insertStep_miss fun hok => h ?_
        have hans : (store.exec e (.insertStep step) m.store).1 = .ok () := by
          rw [store_exec_fst, hx]
          exact hok
        rw [hans]
        exact opens_iff.mpr ⟨hid.1, hid.2, hs⟩
  | _ => cases hstep

/-- A step that is running and was not opened by the statement was running before. -/
theorem running_of_not_begins (hown : Own i e q m)
    (h : ¬ Begins runId stepId ⟨i, e, q, (store.exec e q m.store).1⟩)
    (hs : StepAt (store.exec e q m.store).2 runId stepId .running) :
    StepAt m.store runId stepId .running := by
  obtain ⟨s, hlatest, hrunning⟩ := hs
  have hc := q.exec_step e m.store.db runId stepId
  have hnew : (q.exec e m.store.db).2.latest runId stepId = some s := hlatest
  obtain ⟨hrun, hstep, -⟩ := isLatestOf_iff.mp (Db.isLatestOf_of_latest hnew)
  rw [hnew] at hc
  generalize hold : m.store.db.latest runId stepId = old at hc
  cases hc with
  | same => exact ⟨s, hold, hrunning⟩
  | inserted =>
      rw [kept_of_not_begins rfl ⟨hrun, hstep⟩ hrunning h] at hnew
      exact ⟨_, hnew, hrunning⟩
  | superseded =>
      rw [kept_of_not_begins rfl ⟨hrun, hstep⟩ hrunning h] at hnew
      exact ⟨_, hnew, hrunning⟩
  | completed _ => cases hrunning
  | failed _ => cases hrunning
  | failedLatest => cases hrunning
  | woken _ _ => cases hrunning
  | recorded => exact absurd hrunning hown

/-- A statement that sends the run to sleep finds it running. -/
theorem asleep_of_rests (h : Rests runId ⟨i, e, q, (store.exec e q m.store).1⟩) :
    ∃ secs, q = .scheduleSleep runId secs ∧ m.store.HasStatus runId .running ∧
      ∃ r, (store.exec e q m.store).2.run runId = some r ∧ r.status = .sleeping ∧
        r.availableAt = some (e.began + seconds secs) := by
  cases q with
  | scheduleSleep target secs =>
      cases hres : (store.exec e (.scheduleSleep target secs) m.store).1 with
      | error x => rw [hres] at h; cases h
      | ok hit =>
          cases hit with
          | false => rw [hres] at h; cases h
          | true =>
              rw [hres] at h
              obtain rfl := Option.some.inj h
              have hstmt : ((Stmt.scheduleSleep target secs).exec e m.store.db).1 = .ok true := hres
              have hsql := Stmt.exec_ok hstmt
              rw [hsql] at hstmt
              obtain ⟨r, hr, hat, hnew⟩ := Db.commitRuns_hit (f := RunRow.sleep secs e.began)
                (fun _ => rfl) (fun r hp => ((isAt_iff target).mp hp).1) hstmt
              refine ⟨secs, rfl, ⟨r, hr, ((isAt_iff target).mp hat).2⟩, r.sleep secs e.began, ?_,
                rfl, rfl⟩
              rw [store_exec_run, hsql]
              exact hnew
  | _ => cases h

/-- A sleeping run sleeps until its time has come. -/
theorem asleep_after (hguard : Lifecycle.Guarded i e q m) (h : Asleep m.store runId d since) :
    Rested runId d since e.now ∨ Asleep (store.exec e q m.store).2 runId d since := by
  obtain ⟨r, hr, hend | ⟨hsleep, t, ht, hrested⟩⟩ := h
  · obtain ⟨r', hr', -, hsame⟩ := Lifecycle.guarded_run hguard hr
    exact .inr ⟨r', hr', .inl (hsame hend ▸ hend)⟩
  · have hc := q.exec_run e m.store.db runId
    rw [show m.store.db.run runId = some r from hr] at hc
    have hid : r.runId = runId := Db.runId_of_run hr
    generalize hnew : (q.exec e m.store.db).2.run runId = new at hc
    cases hc with
    | same => exact .inr ⟨r, hnew, .inr ⟨hsleep, t, ht, hrested⟩⟩
    | claimed hav =>
        refine .inl (hrested.mono ?_)
        simp only [RunRow.available, Bool.and_eq_true, RunRow.due, ht] at hav
        simpa using hav.1.1.2
    | extended _ hs => rw [hsleep] at hs; cases hs
    | cancelledRunning hs => rw [hsleep] at hs; cases hs
    | cancelledWaiting _ => exact .inr ⟨_, hnew, .inl rfl⟩
    | completed hs => rw [hsleep] at hs; cases hs
    | failed hs => rw [hsleep] at hs; cases hs
    | slept hs => rw [hsleep] at hs; cases hs
    | retried hs => rw [hsleep] at hs; cases hs
    | nextFired =>
        have hs : r.status = .scheduled := hguard r (hid ▸ hr)
        rw [hsleep] at hs
        cases hs
    | overwritten => exact hguard.elim
    | deleted => exact hguard.elim
    | orphaned _ _ => exact hguard.elim

theorem Asleep.cons {w : World} (ran : Ran) (h : Asleep w runId d since) :
    Asleep w runId d (ran :: since) := by
  obtain ⟨r, hr, hend | ⟨hs, t, ht, hrested⟩⟩ := h
  · exact ⟨r, hr, .inl hend⟩
  · exact ⟨r, hr, .inr ⟨hs, t, ht, hrested.cons ran⟩⟩

/-- A run that can be claimed is not asleep any more. -/
theorem rested_of_available {ns taskQueue : String} {types : List String} {w : World} {r : RunRow}
    (h : Asleep w runId d since) (hr : w.run runId = some r)
    (hav : r.available ns taskQueue types e = true) : Rested runId d since e.now := by
  obtain ⟨r', hr', hend⟩ := h
  obtain rfl := Option.some.inj (hr.symm.trans hr')
  have hclaim := Lifecycle.transition_of_claimable (Lifecycle.claimable_of_available hav)
  rcases hend with hend | ⟨-, t, ht, hrested⟩
  · rw [hclaim.not_terminal] at hend
    cases hend
  · simp only [RunRow.available, Bool.and_eq_true, RunRow.due, ht] at hav
    exact hrested.mono (by simpa using hav.1.1.2)

/-- A completed step was completed before, or a poll completes it. -/
theorem completed_before (hrestful : Restful asks i e q m)
    (hb : Begun asks runId stepId d m.trace since)
    (hs : StepAt (store.exec e q m.store).2 runId stepId .completed) :
    StepAt m.store runId stepId .completed ∨
      q = .completePendingSleeps runId ∧ StepAt m.store runId stepId .running := by
  obtain ⟨s, hlatest, hdone⟩ := hs
  have hc := q.exec_step e m.store.db runId stepId
  have hnew : (q.exec e m.store.db).2.latest runId stepId = some s := hlatest
  obtain ⟨hrun, hstep, -⟩ := isLatestOf_iff.mp (Db.isLatestOf_of_latest hnew)
  rw [hnew] at hc
  generalize hold : m.store.db.latest runId stepId = old at hc
  subst hrun hstep
  cases hc with
  | same => exact .inl ⟨s, hold, hdone⟩
  | inserted => exact .inl (hrestful hdone d since hb)
  | superseded => exact .inl (hrestful hdone d since hb)
  | completed hrunning => exact .inl (hrestful ⟨_, hold, hrunning⟩ d since hb)
  | failed _ => cases hdone
  | failedLatest => cases hdone
  | woken _ hrunning => exact .inr ⟨rfl, _, hold, hrunning⟩
  | recorded => exact .inl (hrestful hdone d since hb)

/-- A poll hands out the run it takes. -/
theorem handed_inv (h : handed ⟨i, e, q, (store.exec e q m.store).1⟩ = some runId) :
    ∃ ns taskQueue workerId types secs r, q = .pollWorkflow ns taskQueue workerId types secs ∧
      m.store.db.picked ns taskQueue types e = some r ∧ r.runId = runId := by
  cases q with
  | pollWorkflow ns taskQueue workerId types secs =>
      cases hres : (store.exec e (.pollWorkflow ns taskQueue workerId types secs) m.store).1 with
      | error x =>
          rw [hres] at h
          cases h
      | ok item =>
          rw [hres] at h
          cases item with
          | none => cases h
          | some item =>
              obtain ⟨r, hpicked, hid⟩ := picked_of_pollWorkflow hres
              exact ⟨ns, taskQueue, workerId, types, secs, r, rfl, hpicked,
                hid.trans (Option.some.inj h)⟩
  | _ => cases h

theorem not_begins_of_handed {c : Ran} {target : Uuid} (h : handed c = some target) :
    ¬ Begins runId stepId c := by
  obtain ⟨_, _, q, _⟩ := c
  cases q with
  | pollWorkflow _ _ _ _ _ => exact fun h => by cases h
  | _ => cases h

/-- A poll since which the step was not opened came after the step was opened. -/
theorem Begun.since_poll {trace later earlier : List Ran} {c : Ran}
    (hb : Begun asks runId stepId d trace since) (htrace : trace = later ++ c :: earlier)
    (hlater : ∀ ran ∈ later, ¬ Begins runId stepId ran) (hc : ¬ Begins runId stepId c) :
    ∃ earlier', since = later ++ c :: earlier' := by
  induction hb generalizing later with
  | opened hbegins _ _ =>
      cases later with
      | nil => exact absurd ((List.cons.inj htrace).1 ▸ hbegins) hc
      | cons x later =>
          exact absurd ((List.cons.inj htrace).1 ▸ hbegins) (hlater x (List.mem_cons_self ..))
  | later _ _ ih =>
      cases later with
      | nil => exact ⟨_, congrArg (· :: _) (List.cons.inj htrace).1⟩
      | cons x later =>
          obtain ⟨rfl, htail⟩ := List.cons.inj htrace
          obtain ⟨earlier', hsince⟩ := ih htail fun ran hran =>
            hlater ran (List.mem_cons_of_mem _ hran)
          exact ⟨earlier', congrArg (List.cons _) hsince⟩

/-- What a statement leaves of the record of a step that it does not open. -/
theorem Tracked.after (h : Tracked asks runId stepId d since m)
    (hb : Begun asks runId stepId d m.trace since) (hdated : Dated m)
    (hadm : store.admits i e q m) (hrestful : Restful asks i e q m)
    (hguard : Lifecycle.Guarded i e q m) (hown : Own i e q m)
    (hnot : ¬ Begins runId stepId ⟨i, e, q, (store.exec e q m.store).1⟩) :
    Tracked asks runId stepId d (⟨i, e, q, (store.exec e q m.store).1⟩ :: since)
      (m.after store i e q) := by
  have hnow : m.store.now ≤ e.now := hadm.1
  refine ⟨?_, ?_, ?_⟩
  · rintro hs' ⟨z, hz, hrests⟩
    have hs := running_of_not_begins hown hnot hs'
    rcases List.mem_cons.mp hz with rfl | hz
    · obtain ⟨secs, rfl, ⟨r', hr', hrunning⟩, r, hr, hstatus, hat⟩ := asleep_of_rests hrests
      by_cases hany : ∃ z ∈ since, Rests runId z
      · rcases h.resting hs hany with hrested | ⟨r'', hr'', hend⟩
        · exact .inl ((hrested.mono hnow).cons _)
        · obtain rfl := Option.some.inj (hr'.symm.trans hr'')
          rw [hrunning] at hend
          rcases hend with hend | ⟨hend, -⟩ <;> cases hend
      · have hlong := hrestful ⟨r', hr', hrunning⟩ stepId d since hb hs
          fun z hz hrests => hany ⟨z, hz, hrests⟩
        refine .inr ⟨r, hr, .inr ⟨hstatus, _, hat, _, List.mem_cons_self .., hrests, ?_⟩⟩
        show 1000 * e.began + (d : Int) ≤ 1000 * (e.began + seconds secs)
        omega
    · rcases h.resting hs ⟨z, hz, hrests⟩ with hrested | hasleep
      · exact .inl ((hrested.mono hnow).cons _)
      · exact (asleep_after hguard hasleep).imp (Rested.cons _) (Asleep.cons _)
  · intro hs' later c earlier hsplit hhanded
    have hs := running_of_not_begins hown hnot hs'
    cases later with
    | cons _ later => exact h.taken hs later c earlier (List.cons.inj hsplit).2 hhanded
    | nil =>
        obtain ⟨rfl, rfl⟩ := List.cons.inj hsplit
        obtain ⟨ns, taskQueue, workerId, types, secs, r, rfl, hpicked, rfl⟩ := handed_inv hhanded
        obtain ⟨hr, hav⟩ := Db.run_of_picked hpicked
        rcases h.resting hs (hrestful r hpicked stepId d since hb hs) with hrested | hasleep
        · exact hrested.mono hnow
        · exact rested_of_available hasleep hr hav
  · intro hs'
    rcases completed_before hrestful hb hs' with hs | ⟨rfl, hs⟩
    · exact ((h.completed hs).mono hnow).cons _
    · obtain ⟨c, hmem, hcaller, hhanded⟩ := hown
      obtain ⟨later, earlier, htrace⟩ := List.append_of_mem hmem
      have hlater := hrestful later c earlier htrace hcaller hhanded stepId d since hb hs
      obtain ⟨earlier', rfl⟩ := hb.since_poll htrace hlater (not_begins_of_handed hhanded)
      obtain ⟨z, hz, hrests, hd⟩ := h.taken hs later c earlier' rfl hhanded
      have hc := hdated c hmem
      refine ⟨z, ?_, hrests, ?_⟩
      · simp [hz]
      · simp only [Moment.after_store, store_exec_now]
        omega

end Tracking

/-! ## Polls complete the sleeps of their own runs -/

/-- A statement that neither completes the sleeps of a run nor records an event as
running. -/
def Harmless : Stmt → Prop
  | .completePendingSleeps _ => False
  | .recordLatestStep _ _ status _ _ => status ≠ .running
  | _ => True

section Polls
variable {cfg : Config} {i : Nat} {runId : Uuid}

theorem own_of_harmless {q : Stmt} (h : Harmless q) (e : Env) (m : Now) : Own i e q m := by
  cases q with
  | completePendingSleeps _ => exact h.elim
  | recordLatestStep _ _ _ _ _ => exact h
  | _ => trivial

theorem sat_harmless {ε α : Type} {p : Prog Stmt Stmt.Result ε α} (h : p.Uses Harmless) :
    Sat store Own i (fun _ => True) p (fun _ _ => True) fun _ _ => True :=
  Sat.of_uses h stable_true fun e _ m hq _ _ => ⟨own_of_harmless hq e m, trivial⟩

theorem harmless_of_readsSteps {q : Stmt} (h : q.readsSteps = true) : Harmless q := by
  cases q with
  | completePendingSleeps _ => cases h
  | recordLatestStep _ _ _ _ _ => cases h
  | _ => trivial

theorem harmless_of_footprint {req : Request} (hrec : req.recordsEvent = false) {q : Stmt}
    (hq : req.footprint cfg q) : Harmless q := by
  cases q with
  | completePendingSleeps _ =>
      obtain ⟨r, waits, rfl⟩ := hq.2
      cases hrec
  | recordLatestStep _ _ _ _ _ =>
      rw [hq.2.1] at hrec
      cases hrec
  | _ => trivial

theorem recordLifecycleEvent_harmless (max : Nat) (utf8 : Bytes → Option String) (runId : Uuid)
    (stepKind : StepKind) (output : Option Bytes) :
    (StepRepository.recordLifecycleEvent max utf8 runId stepKind output).Uses Harmless :=
  recordLifecycleEvent_uses harmless_of_readsSteps _ _ _ (fun _ _ _ h => h) fun _ _ _ _ =>
    ⟨trivial, trivial⟩

theorem validateWorkflowAction_harmless (cfg : Config) (runId : Uuid) :
    (WorkerService.validateWorkflowAction cfg runId).Uses Harmless :=
  (validateWorkflowAction_uses cfg (.drainWorker "") runId).mono fun _ hq =>
    harmless_of_footprint rfl hq

/-- The requests that record the end of a run. -/
theorem cancelWorkflow_harmless (req : CancelWorkflowRequest) :
    (WorkflowService.cancelWorkflow cfg req).Uses Harmless := by
  refine uses_uuid_bind fun runId _ => uses_requireNonEmpty_bind ?_
  refine Prog.Uses.bind (uses_call ?_) fun hit => ?_
  · refine Prog.Uses.bind (uses_sql trivial) fun hit => ?_
    split
    next => trivial
    next => exact uses_sql trivial
  · split
    next =>
      exact Prog.Uses.bind (recordLifecycleEvent_harmless _ _ _ _ _).attempt fun _ => trivial
    next =>
      refine Prog.Uses.bind (uses_stmt trivial) fun found => ?_
      split <;> trivial

theorem completeWorkflow_harmless (req : CompleteWorkflowRequest) :
    (WorkerService.completeWorkflow cfg req).Uses Harmless := by
  refine uses_uuid_bind fun runId _ => (validateWorkflowAction_harmless cfg runId).bind fun _ => ?_
  refine Prog.Uses.bind (uses_call ((Prog.uses_ofExcept _).bind fun _ => ?_)) fun _ => ?_
  · refine Prog.Uses.bind (uses_sql trivial) fun hit => ?_
    split
    next => trivial
    next => exact uses_sql trivial
  · exact Prog.Uses.bind (recordLifecycleEvent_harmless _ _ _ _ _).attempt fun _ => trivial

theorem failWorkflow_harmless (req : FailWorkflowRequest) :
    (WorkerService.failWorkflow cfg req).Uses Harmless := by
  refine uses_uuid_bind fun runId _ => (validateWorkflowAction_harmless cfg runId).bind fun _ => ?_
  refine Prog.Uses.bind (uses_call (Prog.Uses.bind (uses_sql trivial) fun _ => trivial)) fun _ => ?_
  exact Prog.Uses.bind (recordLifecycleEvent_harmless _ _ _ _ _).attempt fun _ => trivial

theorem took_kept (runId : Uuid) : Invariant (store.restrict Own) (Took i runId) := by
  rintro j e q m ⟨c, hc, h⟩ -
  exact ⟨c, List.mem_cons_of_mem _ hc, h⟩

/-- What a poll does with a run it has taken. -/
theorem sat_dispatch (cfg : Config) (item : ClaimedWorkflow) :
    Sat store Own i (Took i item.runId) (WorkerService.dispatch cfg item) (fun _ _ => True)
      fun _ _ => True := by
  have hcomplete : Sat store Own i (Took i item.runId) (sql (.completePendingSleeps item.runId))
      (fun _ _ => True) fun _ _ => True :=
    sat_sql (fun _ => stable_true) fun e m hm _ => ⟨hm, fun _ _ => trivial⟩
  refine Sat.bind (P := fun _ _ => True)
    (hcomplete.attempt (fun _ _ _ => trivial) fun _ _ _ => trivial) fun _ => ?_
  have hrecord := recordLifecycleEvent_harmless cfg.payloadMaxSizeBytes cfg.utf8 item.runId
    .workflowStarted none
  exact Sat.bind (sat_harmless hrecord.attempt) fun _ _ _ => trivial

/-- A poll that hands out a run has taken it. -/
theorem sat_pollWorkflow (ns taskQueue workerId : String) (types : List String) (secs : Int) :
    Sat store Own i (fun _ => True) (stmt (.pollWorkflow ns taskQueue workerId types secs))
      (fun found m => ∀ item, found = some item → Took i item.runId m) fun _ _ => True := by
  refine Sat.mapError (X := fun _ _ => True) (sat_sql (fun found => ?_) fun e m _ _ => ?_)
    fun _ _ _ => trivial
  · exact Stable.forall fun item => Stable.imp fun _ => (took_kept item.runId).stable
  · refine ⟨trivial, fun found hfound item hitem => ?_⟩
    subst hitem
    exact ⟨_, List.mem_cons_self .., rfl, by rw [hfound]; rfl⟩

theorem sat_pollLoop (req : PollTaskRequest) (types : List String) (waits : Nat) :
    Sat store Own i (fun _ => True) (WorkerService.pollLoop cfg req types waits) (fun _ _ => True)
      fun _ _ => True := by
  induction waits with
  | zero =>
      refine Sat.bind (sat_pollWorkflow _ _ _ _ _) fun found => ?_
      cases found with
      | none => exact fun _ _ => trivial
      | some item => exact (sat_dispatch cfg item).start fun _ hm => hm item rfl
  | succ waits ih =>
      refine Sat.bind (sat_pollWorkflow _ _ _ _ _) fun found => ?_
      cases found with
      | none => exact ih.start fun _ _ => trivial
      | some item => exact (sat_dispatch cfg item).start fun _ hm => hm item rfl

theorem sat_pollTask (req : PollTaskRequest) (waits : Nat) :
    Sat store Own i (fun _ => True) (WorkerService.pollTask cfg req waits) (fun _ _ => True)
      fun _ _ => True := by
  refine sat_uuid_bind (fun workerId _ => ?_) fun _ _ _ => trivial
  split
  next => exact fun _ _ => trivial
  next =>
    refine sat_requireNonEmpty_bind ?_ fun _ _ _ => trivial
    refine Sat.bind (sat_harmless (uses_stmt trivial)) fun found => ?_
    refine sat_orFail_bind (fun worker _ => ?_) fun _ _ => trivial
    split
    next => exact fun _ _ => trivial
    next =>
      split
      next => exact fun _ _ => trivial
      next =>
        split
        next => exact fun _ _ => trivial
        next =>
          dsimp only
          split
          next => exact fun _ _ => trivial
          next => exact sat_pollLoop req _ waits

theorem sat_handle (cfg : Config) (req : Request) :
    Sat store Own i (fun _ => True) (handle cfg req) (fun _ _ => True) fun _ _ => True := by
  cases hrec : req.recordsEvent with
  | false =>
      exact sat_harmless ((handle_footprint cfg req).mono fun _ hq => harmless_of_footprint hrec hq)
  | true =>
      cases req with
      | pollTask req waits => exact sat_pollTask req waits
      | cancelWorkflow req => exact sat_harmless (cancelWorkflow_harmless req)
      | completeWorkflow req => exact sat_harmless (completeWorkflow_harmless req)
      | failWorkflow req => exact sat_harmless (failWorkflow_harmless req)
      | _ => cases hrec

end Polls

/-! ## The result -/

/-- What every statement keeps to. -/
def Γ : Condition Stmt Stmt.Result World Env := fun i e q m =>
  Lifecycle.Guarded i e q m ∧ Own i e q m

section Executions
variable {cfg : Config}

/-- The handlers of a call of `sleep_internal` keep to it at any moment. -/
theorem handle_mild (req : Request) (hacc : req.managesSchedules = false)
    (hco : ∀ ticks, req ≠ .coordinator ticks) (hrec : req.recordsEvent = false) :
    (handle cfg req).Uses fun q => ∀ i e m, Γ i e q m :=
  (handle_footprint cfg req).mono fun _ hq i e m =>
    ⟨Lifecycle.guarded_of_may hacc hco hq.1 i e m, own_of_harmless (harmless_of_footprint hrec hq) e m⟩

theorem sleep_mild (run : SleepCall) : (run.call cfg).Uses fun q => ∀ i e m, Γ i e q m := by
  have hbegin : (WorkerService.beginStep cfg run.beginRequest).Uses fun q => ∀ i e m, Γ i e q m :=
    handle_mild (.beginStep run.beginRequest) rfl nofun rfl
  have hsleep : ∀ stepId, (WorkerService.sleep cfg (run.sleepRequest stepId)).Uses fun q =>
      ∀ i e m, Γ i e q m :=
    fun stepId => handle_mild (.sleep (run.sleepRequest stepId)) rfl nofun rfl
  refine Prog.Uses.bind (send_uses hbegin _).mapError fun resp => ?_
  split
  next =>
    split
    next => exact Prog.Uses.bind (send_uses (hsleep _) _).mapError fun _ => trivial
    next => trivial
  next => trivial

end Executions

theorem serves (cfg : Config) (asks : Nat → Option Nat) :
    Serves ((service cfg).restrict (Restful asks)) Γ (fun _ => True) (fun _ _ _ _ => True)
      fun _ _ _ _ => True := by
  refine Serves.restrict fun i traffic hacc => ?_
  cases traffic with
  | request req =>
      obtain ⟨K, hK, hstart, hsat⟩ := Lifecycle.serves cfg i req hacc
      have hstable : Stable store Γ i K := fun j e q m hj hm ha hq => hK j e q m hj hm ha hq.1
      have hboth : Sat store Γ i (fun m => K m ∧ True) (handle cfg req) _ _ :=
        hsat.and (sat_handle cfg req)
      refine ⟨_, hstable.and stable_true, fun m _ hfresh => ⟨hstart m trivial hfresh, trivial⟩, ?_⟩
      exact Sat.bind (hboth.mapError fun _ _ _ => trivial) fun _ _ _ => trivial
  | sleep run =>
      refine ⟨_, stable_true, fun _ _ _ => trivial, ?_⟩
      have hsat : Sat store Γ i (fun _ => True) (run.call cfg) _ _ :=
        Sat.of_uses (sleep_mild run) stable_true fun e q m hq _ _ => ⟨hq i e m, trivial⟩
      exact Sat.bind (hsat.mono (fun _ h => h) (fun _ _ h => h) fun _ _ _ => trivial)
        fun _ _ _ => trivial

theorem tracked_invariant (asks : Nat → Option Nat) :
    Invariant ((store.restrict (Restful asks)).restrict Γ) fun m => Dated m ∧
      ∀ runId stepId d since, Begun asks runId stepId d m.trace since →
        Tracked asks runId stepId d since m := by
  rintro i e q m ⟨hdated, hall⟩ ⟨⟨hadm, hrestful⟩, hguard, hown⟩
  refine ⟨dated_invariant store rfl (fun _ _ _ _ ha => ha.1) i e q m hdated hadm, ?_⟩
  intro runId stepId d since hb
  cases hb with
  | opened hbegins _ _ =>
      refine ⟨?_, ?_, ?_⟩
      · rintro - ⟨z, hz, -⟩
        cases hz
      · rintro - later c earlier hsplit -
        cases later <;> cases hsplit
      · rintro ⟨s, hs, hdone⟩
        obtain ⟨s', hs', hrunning⟩ := running_of_begins hbegins
        obtain rfl := Option.some.inj (hs.symm.trans hs')
        rw [hdone] at hrunning
        cases hrunning
  | later hnot hb =>
      exact (hall _ _ _ _ hb).after hb hdated hadm hrestful hguard hown hnot

/-- Sleeps are slept in the runs whose polls, sleeps and completions are restful. -/
theorem sleeps_are_slept_if_rested (cfg : Config) :
    SleepsAreSlept fun asks => (service cfg).restrict (Restful asks) := by
  intro w p h runId stepId d since hb hdone
  have hinv : Invariant (((service cfg).restrict (Restful (asked p))).toEngine.restrict Γ)
      fun _ => True := fun _ _ _ _ _ _ => trivial
  have hsteps := (h.sound (serves cfg (asked p)) hinv trivial (sound_nil w)).1
  have hstart : Dated ⟨w, []⟩ ∧ ∀ runId stepId d since, Begun (asked p) runId stepId d [] since →
      Tracked (asked p) runId stepId d since ⟨w, []⟩ :=
    ⟨(fun ran hran => nomatch hran), fun _ _ _ _ hb => nomatch hb⟩
  exact ((hsteps.invariant (tracked_invariant (asked p)) hstart).2 _ _ _ _ hb).completed hdone

/-! ## A sleep that is slept -/

section Decisions
variable {asks : Nat → Option Nat} {runId : Uuid} {stepId : String}

/-- The duration that the step was last opened for, and what ran since. -/
def lastOpened (asks : Nat → Option Nat) (runId : Uuid) (stepId : String) :
    List Ran → Option (Nat × List Ran)
  | [] => none
  | ran :: trace =>
      if Begins runId stepId ran then
        ((asks ran.caller).filter fun d => second ≤ d).map fun d => (d, [])
      else (lastOpened asks runId stepId trace).map fun (d, since) => (d, ran :: since)

theorem lastOpened_of_begun {d : Nat} {trace since : List Ran}
    (h : Begun asks runId stepId d trace since) :
    lastOpened asks runId stepId trace = some (d, since) := by
  induction h with
  | opened hb hasks hd =>
      rw [lastOpened, if_pos hb, hasks, Option.filter_some, if_pos (decide_eq_true hd)]
      rfl
  | later hnot _ ih =>
      rw [lastOpened, if_neg hnot, ih]
      rfl

theorem begun_of_lastOpened {d : Nat} {trace since : List Ran}
    (h : lastOpened asks runId stepId trace = some (d, since)) :
    Begun asks runId stepId d trace since := by
  induction trace generalizing since with
  | nil => cases h
  | cons ran trace ih =>
      unfold lastOpened at h
      split at h
      next hb =>
        obtain ⟨d', hasks, heq⟩ := Option.map_eq_some_iff.mp h
        obtain ⟨rfl, rfl⟩ := Prod.mk.inj heq
        obtain ⟨hasks, hd⟩ := Option.filter_eq_some_iff.mp hasks
        exact .opened hb hasks (of_decide_eq_true hd)
      next hnot =>
        obtain ⟨⟨d', since'⟩, hlast, heq⟩ := Option.map_eq_some_iff.mp h
        obtain ⟨rfl, rfl⟩ := Prod.mk.inj heq
        exact .later hnot (ih hlast)

/-- Every open step of the run that is a sleep satisfies this. -/
def eachOpen (asks : Nat → Option Nat) (runId : Uuid) (m : Now) (P : Nat → List Ran → Bool) : Bool :=
  m.store.db.steps.rows.all fun s => s.runId ≠ runId || s.status ≠ .running ||
    (lastOpened asks runId s.stepId m.trace).all fun (d, since) => P d since

theorem of_eachOpen {m : Now} {P : Nat → List Ran → Bool} (h : eachOpen asks runId m P = true)
    {d : Nat} {since : List Ran} (hb : Begun asks runId stepId d m.trace since)
    (hat : StepAt m.store runId stepId .running) : P d since = true := by
  obtain ⟨s, hs, hstatus⟩ := hat
  obtain ⟨hid, hstep, -⟩ := isLatestOf_iff.mp (Db.isLatestOf_of_latest hs)
  have hall := List.all_eq_true.mp h s (Db.mem_of_latest hs)
  simpa [hid, hstatus, hstep, lastOpened_of_begun hb] using hall

/-- A poll that is restful as far as can be seen at the moment. -/
def restful (asks : Nat → Option Nat) (i : Nat) (e : Env) (m : Now) : Stmt → Bool
  | .pollWorkflow ns taskQueue _ types _ =>
      (m.store.db.picked ns taskQueue types e).all fun r =>
        eachOpen asks r.runId m fun _ since => since.any fun z => decide (Rests r.runId z)
  | .completePendingSleeps runId =>
      m.trace.tail.all fun c => decide (c.caller ≠ i ∨ handed c ≠ some runId)
  | .scheduleSleep runId secs =>
      eachOpen asks runId m fun d since =>
        (since.any fun z => decide (Rests runId z)) || decide ((d : Int) ≤ 1000 * seconds secs)
  | .completeRunningStep _ _ _ => false
  | .recordLatestStep _ _ status _ _ => status ≠ .completed
  | .supersede step => step.status ≠ .completed
  | .insertStep step => step.status ≠ .completed
  | _ => true

theorem restful_sound {i : Nat} {e : Env} {q : Stmt} {m : Now} (h : restful asks i e m q = true) :
    Restful asks i e q m := by
  cases q with
  | pollWorkflow ns taskQueue workerId types secs =>
      intro r hpicked stepId d since hb hat
      rw [restful, hpicked, Option.all_some] at h
      obtain ⟨z, hz, hrests⟩ := List.any_eq_true.mp (of_eachOpen h hb hat)
      exact ⟨z, hz, of_decide_eq_true hrests⟩
  | completePendingSleeps target =>
      intro later c earlier htrace hcaller hhanded _ _ _ _ _ ran hran
      -- the poll itself is the newest statement
      cases later with
      | nil => cases hran
      | cons ran' later =>
          have hmem : c ∈ m.trace.tail := by rw [htrace]; simp
          rcases of_decide_eq_true (List.all_eq_true.mp h c hmem) with hne | hne
          · exact absurd hcaller hne
          · exact absurd hhanded hne
  | scheduleSleep target secs =>
      intro _ stepId d since hb hat hnone
      rw [restful] at h
      rcases Bool.or_eq_true_iff.mp (of_eachOpen h hb hat) with hany | hle
      · obtain ⟨z, hz, hrests⟩ := List.any_eq_true.mp hany
        exact absurd (of_decide_eq_true hrests) (hnone z hz)
      · exact of_decide_eq_true hle
  | completeRunningStep _ _ _ => cases h
  | recordLatestStep _ _ _ _ _ => exact fun hdone => absurd hdone (of_decide_eq_true h)
  | supersede _ => exact fun hdone => absurd hdone (of_decide_eq_true h)
  | insertStep _ => exact fun hdone => absurd hdone (of_decide_eq_true h)
  | _ => trivial

end Decisions

/-- A worker takes a run, which sleeps for two seconds, and takes it again four seconds
later. -/
def rests : List (Action Env Traffic) :=
  [.start (.request (.startWorkflow ⟨"job", "queue", "type", none, "ns", "", none⟩))] ++
    runs 0 6 (.quiet 0 1) ++
    [.start (.request (.register ⟨"ns", "queue", ["type"], "host", 7, ""⟩))] ++
    runs 1 1 (.quiet 0 2) ++
    [.start (.request (.pollTask ⟨"queue", "2", "ns", ["type"]⟩ 0))] ++ runs 2 2 (.quiet 0 3) ++
    [.start (.sleep ⟨"ns", "1", "rest", ⟨2, 0, Nat.succ_pos _⟩, false, false⟩)] ++
    runs 3 8 (.quiet 1 4) ++
    [.start (.request (.pollTask ⟨"queue", "2", "ns", ["type"]⟩ 0))] ++ runs 4 3 (.quiet 5 5)

def awake : SleepState := fireAll (service .sample) (.init (.empty 0) []) rests

/-- The request number 3 is the sleep. -/
def twoSeconds (i : Nat) : Option Nat := if i = 3 then some 2000000000 else none

theorem asked_awake : asked awake = twoSeconds := by
  have hlen : awake.calls.length = 5 := by decide +kernel
  have hfirst : ∀ i < 5, asked awake i = twoSeconds i := by decide +kernel
  funext i
  by_cases hi : i < 5
  · exact hfirst i hi
  · have hnone : awake.calls[i]? = none := List.getElem?_eq_none (by omega)
    simp [asked, hnone, twoSeconds, show i ≠ 3 by omega]

theorem sleeps_are_slept_awake : StepAt awake.store 1 "rest" .completed ∧
    ∃ since, Begun (asked awake) 1 "rest" 2000000000 awake.trace since ∧
      Rested 1 2000000000 since awake.store.now := by
  have h : Steps ((service .sample).restrict fun i e q m => restful twoSeconds i e m q = true)
      (.init (.empty 0) [])
      (fireAll ((service .sample).restrict fun i e q m => restful twoSeconds i e m q = true)
        (.init (.empty 0) []) rests) :=
    AllEnabled.steps (by decide +kernel)
  rw [fireAll_restrict] at h
  have hrestful : Steps ((service .sample).restrict (Restful (asked awake))) (.init (.empty 0) [])
      awake := by
    rw [asked_awake]
    exact h.restrict_mono fun _ _ _ _ => restful_sound
  have hlast : ((lastOpened twoSeconds 1 "rest" awake.trace).map Prod.fst) = some 2000000000 := by
    decide +kernel
  have hstatus : (awake.store.latest 1 "rest").map StepRow.status = some .completed := by
    decide +kernel
  obtain ⟨⟨d, since⟩, hopened, rfl⟩ := Option.map_eq_some_iff.mp hlast
  have hbegun : Begun (asked awake) 1 "rest" 2000000000 awake.trace since := by
    rw [asked_awake]
    exact begun_of_lastOpened hopened
  have hdone : StepAt awake.store 1 "rest" .completed := Option.map_eq_some_iff.mp hstatus
  exact ⟨hdone, since, hbegun,
    sleeps_are_slept_if_rested .sample (.empty 0) awake hrestful 1 "rest" _ since hbegun hdone⟩

/-! ## A sleep that is not slept -/

/-- The worker crashes between `BeginStep` and `Sleep` of a sleep of one hour, and
another poll takes the run over. -/
def crashed : List (Action Env Traffic) :=
  [.start (.request (.startWorkflow ⟨"job", "queue", "type", none, "ns", "", none⟩))] ++
    runs 0 6 (.quiet 0 1) ++
    [.start (.request (.register ⟨"ns", "queue", ["type"], "host", 7, ""⟩))] ++
    runs 1 1 (.quiet 0 2) ++
    [.start (.request (.pollTask ⟨"queue", "2", "ns", ["type"]⟩ 0))] ++ runs 2 7 (.quiet 0 3) ++
    [.start (.sleep ⟨"ns", "1", "rest", ⟨3600, 0, Nat.succ_pos _⟩, false, false⟩)] ++
    runs 3 7 (.quiet 1 4) ++
    [.start (.request (.pollTask ⟨"queue", "2", "ns", ["type"]⟩ 0))] ++ runs 4 3 (.quiet 61 5)

/-- The trace of a run splits where the step was last opened. -/
theorem begun_of_split {asks : Nat → Option Nat} {runId : Uuid} {stepId : String} {d : Nat} {b : Ran}
    {earlier since trace : List Ran} (htrace : trace = since ++ b :: earlier)
    (hb : Begins runId stepId b) (hasks : asks b.caller = some d) (hd : second ≤ d)
    (hsince : ∀ ran ∈ since, ¬ Begins runId stepId ran) :
    Begun asks runId stepId d trace since := by
  subst htrace
  induction since with
  | nil => exact .opened hb hasks hd
  | cons ran since ih =>
      exact .later (hsince ran (List.mem_cons_self ..))
        (ih fun ran hran => hsince ran (List.mem_cons_of_mem _ hran))

/-- The step was last opened by the statement before the `n` newest. -/
theorem begun_of_take {p : SleepState} {n i : Nat} {runId : Uuid} {stepId : String} {d : Nat}
    (hopened : (p.trace[n]?).map (fun b => (opened b, b.caller)) = some (some (runId, stepId), i))
    (hasks : asked p i = some d) (hd : second ≤ d)
    (hsince : ∀ ran ∈ p.trace.take n, ¬ Begins runId stepId ran) :
    Begun (asked p) runId stepId d p.trace (p.trace.take n) := by
  obtain ⟨b, hb, hval⟩ := Option.map_eq_some_iff.mp hopened
  obtain ⟨hopens, rfl⟩ := Prod.mk.inj hval
  have hsplit : p.trace = p.trace.take n ++ b :: p.trace.drop (n + 1) := by
    obtain ⟨hlt, rfl⟩ := List.getElem?_eq_some_iff.mp hb
    rw [List.getElem_cons_drop, List.take_append_drop]
  exact begun_of_split hsplit hopens hasks hd hsince

/-- The state after the second poll. -/
def afterCrash : SleepState := fireAll (service .sample) (.init (.empty 0) []) crashed

/-- The second poll completes the step, one minute after it was begun. -/
theorem sleep_is_not_slept : ¬ SleepsAreSlept fun _ => service .sample := by
  intro hslept
  have hsteps : Steps (service .sample) (.init (.empty 0) []) afterCrash :=
    AllEnabled.steps (by decide +kernel)
  have hsince : ∀ ran ∈ afterCrash.trace.take 3, ¬ Begins 1 "rest" ran ∧ ¬ Rests 1 ran := by
    decide +kernel
  have hbegun : Begun (asked afterCrash) 1 "rest" 3600000000000 afterCrash.trace
      (afterCrash.trace.take 3) :=
    begun_of_take (i := 3) (by decide +kernel) (by decide +kernel) (by decide) fun ran hran =>
      (hsince ran hran).1
  have hstatus : (afterCrash.store.latest 1 "rest").map StepRow.status = some .completed := by
    decide +kernel
  obtain ⟨z, hz, hrests, -⟩ := hslept _ afterCrash hsteps 1 "rest" _ _ hbegun
    (Option.map_eq_some_iff.mp hstatus)
  exact (hsince z hz).2 hrests

end Sleeping

end Kagzi
