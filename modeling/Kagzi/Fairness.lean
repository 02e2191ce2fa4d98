import Mathlib.Data.Finset.Card
import Mathlib.Data.Finset.Dedup
import Kagzi.Logic.Credit
import Kagzi.Lease

/-!
# Waiting runs are overtaken a bounded number of times

A poll takes the run that has been due the longest among those of its queue and types.
What becomes due later has a later `available_at`: a lease counts from the present, and a
new run, a sleep and a retry from the time at which their transaction has begun.  The
coordinator makes runs that are due in the past, for the slots it catches up with, and so
does a transaction that began before the run has waited and is late.

So the runs ahead of a run that waits (`ahead`) are a credit that the polls use up, and
that nothing but such a slot and such a transaction adds to (`credit`).
-/

namespace Kagzi

open Atomic Relational

namespace Fairness

/-! ## The runs ahead -/

/-- The run can be claimed at `a`. -/
def waits (a : Int) (r : RunRow) : Bool := r.status.isClaimable && r.due a

/-- The runs of the queue of `r` that could be claimed at `a`, but for `r`. -/
def ahead (r : RunRow) (a : Int) (db : Db) : Finset Uuid :=
  ((db.runs.rows.filter fun x =>
    x.runId ≠ r.runId && x.ns = r.ns && x.taskQueue = r.taskQueue && waits a x).map
      RunRow.runId).toFinset

/-- The statement is a poll that `r` is good for and finds unlocked, and it succeeds. -/
def passes (r : RunRow) : Ran → Bool
  | ⟨_, e, .pollWorkflow ns taskQueue _ types _, .ok _⟩ =>
      r.ns = ns && r.taskQueue = taskQueue && (types.isEmpty || types.contains r.workflowType) &&
        !e.locked.contains r.runId
  | _ => false

/-- The run that the statement gives a date, and the date. -/
def dated (e : Env) : Stmt → Option (Uuid × Int)
  | .createWorkflow params => some (params.runId, e.began)
  | .createScheduleInstance _ fireAt => some (e.fresh, fireAt)
  | q => q.putsOff e

/-- The statement dates a run back to `a` or before. -/
def datesBack (a : Int) (ran : Ran) : Bool :=
  (dated ran.env ran.query).any fun d => d.2 ≤ a

/-- The statement dates the run `r` back to `a` or before. -/
def putsBack (r : RunRow) (a : Int) (ran : Ran) : Bool :=
  (dated ran.env ran.query).any fun d => d.1 = r.runId && d.2 ≤ a

section Ahead
variable {r x : RunRow} {a : Int} {db : Db} {id : Uuid}

theorem waits_iff :
    waits a x = true ↔ x.status.isClaimable = true ∧ ∃ t, x.availableAt = some t ∧ t ≤ a := by
  unfold waits RunRow.due
  cases x.availableAt with
  | none => simp
  | some t => simp

theorem mem_ahead :
    id ∈ ahead r a db ↔ id ≠ r.runId ∧
      ∃ x, db.run id = some x ∧ x.ns = r.ns ∧ x.taskQueue = r.taskQueue ∧ waits a x = true := by
  constructor
  · intro h
    obtain ⟨x, hx, rfl⟩ := List.mem_map.mp (List.mem_toFinset.mp h)
    obtain ⟨hmem, hx⟩ := List.mem_filter.mp hx
    simp only [ne_eq, Bool.and_eq_true, decide_eq_true_eq, decide_not, Bool.not_eq_true',
      decide_eq_false_iff_not] at hx
    exact ⟨hx.1.1.1, x, Db.run_of_mem hmem, hx.1.1.2, hx.1.2, hx.2⟩
  · rintro ⟨hne, x, hx, hns, hqueue, hwaits⟩
    obtain rfl := Db.runId_of_run hx
    refine List.mem_toFinset.mpr (List.mem_map.mpr ⟨x, List.mem_filter.mpr ⟨Db.mem_of_run hx, ?_⟩,
      rfl⟩)
    simp [hne, hns, hqueue, hwaits]

end Ahead

/-! ## The order of the polls -/

theorem earliest_le {rs : List RunRow} {t r : RunRow} (h : earliest rs = some t) (hr : r ∈ rs) :
    t.availableAt.getD 0 ≤ r.availableAt.getD 0 := by
  induction rs generalizing t with
  | nil => cases hr
  | cons x rs ih =>
      rw [earliest] at h
      cases hrest : earliest rs with
      | none =>
          rw [hrest] at h
          obtain rfl := Option.some.inj h
          cases hr with
          | head => exact Int.le_refl _
          | tail _ hr =>
              cases rs with
              | nil => cases hr
              | cons y rs =>
                  rw [earliest] at hrest
                  split at hrest
                  next => cases hrest
                  next => split at hrest <;> cases hrest
      | some r' =>
          rw [hrest] at h
          dsimp only at h
          split at h
          next hlt =>
            obtain rfl := Option.some.inj h
            cases hr with
            | head => exact Int.le_of_lt hlt
            | tail _ hr => exact ih hrest hr
          next hle =>
            obtain rfl := Option.some.inj h
            cases hr with
            | head => exact Int.le_refl _
            | tail _ hr => exact Int.le_trans (Int.not_lt.mp hle) (ih hrest hr)

theorem earliest_isSome {rs : List RunRow} {r : RunRow} (hr : r ∈ rs) :
    ∃ t, earliest rs = some t := by
  cases rs with
  | nil => cases hr
  | cons x rs =>
      rw [earliest]
      split
      next => exact ⟨_, rfl⟩
      next => split <;> exact ⟨_, rfl⟩

/-- A poll that succeeds although there is a run for it hands one out, which has been due
for at least as long. -/
theorem taken_of_pollWorkflow {ns taskQueue workerId : String} {types : List String} {secs : Int}
    {e : Env} {db : Db} {r : RunRow} {found : Option ClaimedWorkflow} (hr : r ∈ db.runs.rows)
    (hav : r.available ns taskQueue types e = true)
    (h : ((Stmt.pollWorkflow ns taskQueue workerId types secs).exec e db).1 = .ok found) :
    ∃ t, db.run t.runId = some t ∧ t.available ns taskQueue types e = true ∧
      t.availableAt.getD 0 ≤ r.availableAt.getD 0 ∧
      ((Stmt.pollWorkflow ns taskQueue workerId types secs).exec e db).2.run t.runId =
        some (t.claim workerId secs e.now) := by
  have hmem : r ∈ db.runs.rows.filter (RunRow.available ns taskQueue types e) :=
    List.mem_filter.mpr ⟨hr, hav⟩
  obtain ⟨t, ht⟩ := earliest_isSome hmem
  cases found with
  | none =>
      rw [Stmt.exec_ok h] at h
      simp only [Stmt.sql, pollWorkflow, ht] at h
      split at h
      next => cases h
      next => split at h <;> cases h
  | some item =>
      obtain ⟨t', ht', -, -, hnew⟩ := claimed_of_pollWorkflow h
      obtain rfl : t = t' := Option.some.inj (ht.symm.trans ht')
      obtain ⟨hrun, htav⟩ := Db.run_of_picked ht'
      exact ⟨t, hrun, htav, earliest_le ht hmem, hnew⟩

/-! ## What becomes due -/

section Steps
variable {settings : WorkerSettings} {i : Nat} {e : Env} {q : Stmt} {m : Now} {a : Int}

/-- A lease that starts after `a` is not due at `a`. -/
theorem not_waits_claim (hV : 0 ≤ settings.visibilityTimeoutSecs) (hnow : a < e.now)
    (y : RunRow) (workerId : String) :
    waits a (y.claim workerId settings.visibilityTimeoutSecs e.now) = false := by
  refine Bool.eq_false_iff.mpr fun hwaits => ?_
  obtain ⟨-, t, ht, hle⟩ := waits_iff.mp hwaits
  obtain rfl := Option.some.inj ht
  have := seconds_nonneg hV
  omega

/-- A run that can be claimed at `a`, a time that has passed, could be claimed at `a`
before, or the statement has dated it back. -/
theorem waits_of_exec (hV : 0 ≤ settings.visibilityTimeoutSecs)
    (hE : 0 ≤ settings.heartbeatExtensionSecs) (hnow : a < e.now)
    (hq : Lease.Guarded settings i e q m) {id : Uuid} {x' : RunRow}
    (hx' : (q.exec e m.store.db).2.run id = some x') (hw : waits a x' = true) :
    (∃ x, m.store.run id = some x ∧ waits a x = true ∧ x'.ns = x.ns ∧ x'.taskQueue = x.taskQueue ∧
      x'.workflowType = x.workflowType) ∨
    ∃ t, dated e q = some (id, t) ∧ t ≤ a := by
  obtain ⟨hs, t, ht, hta⟩ := waits_iff.mp hw
  have hc := q.exec_run e m.store.db id
  rw [hx'] at hc
  cases hold : m.store.db.run id with
  | none =>
      rw [hold] at hc
      cases hc with
      | created =>
          exact .inr ⟨t, by rw [← Db.runId_of_run hx', ← Option.some.inj ht]; rfl, hta⟩
      | instantiated =>
          exact .inr ⟨t, by rw [← Db.runId_of_run hx', ← Option.some.inj ht]; rfl, hta⟩
  | some x =>
      rw [hold] at hc
      have hid : x.runId = id := Db.runId_of_run hold
      cases hc with
      | same => exact .inl ⟨_, hold, hw, rfl, rfl, rfl⟩
      | @claimed ns taskQueue workerId types secs _ hav =>
          obtain rfl : secs = settings.visibilityTimeoutSecs := hq
          rw [not_waits_claim hV hnow] at hw
          cases hw
      | @extended workerId secs _ hlock hrunning =>
          obtain rfl : secs = settings.heartbeatExtensionSecs := hq
          obtain ⟨t', -, rfl⟩ := Option.map_eq_some_iff.mp ht
          have := seconds_nonneg hE
          omega
      | cancelledRunning _ => cases hs
      | cancelledWaiting _ => cases hs
      | completed _ => cases hs
      | failed _ => cases hs
      | slept _ => exact .inr ⟨t, by rw [← hid, ← Option.some.inj ht]; rfl, hta⟩
      | retried _ => exact .inr ⟨t, by rw [← hid, ← Option.some.inj ht]; rfl, hta⟩
      | nextFired =>
          have htemplate := hq x (Db.runId_of_run hold ▸ hold)
          exact absurd hs (by simp [RunRow.nextFire,
            WorkflowStatus.template_not_claimable htemplate])
      | overwritten =>
          exact absurd hs (by simp [RunRow.overwrite, WorkflowStatus.template_not_claimable hq])
      | orphaned _ _ => exact .inl ⟨_, hold, hw, rfl, rfl, rfl⟩

/-- A statement puts at most one run ahead, and only one that it dates back. -/
theorem ahead_of_exec (hV : 0 ≤ settings.visibilityTimeoutSecs)
    (hE : 0 ≤ settings.heartbeatExtensionSecs) (hnow : a < e.now)
    (hq : Lease.Guarded settings i e q m) (r : RunRow) :
    ahead r a (q.exec e m.store.db).2 ⊆ ahead r a m.store.db ∨
      ∃ id t, (dated e q = some (id, t) ∧ t ≤ a) ∧
        ahead r a (q.exec e m.store.db).2 ⊆ insert id (ahead r a m.store.db) := by
  by_cases hdates : ∃ id t, dated e q = some (id, t) ∧ t ≤ a
  · obtain ⟨target, t, hdated, hta⟩ := hdates
    refine .inr ⟨target, t, ⟨hdated, hta⟩, fun id hid => ?_⟩
    obtain ⟨hne, x', hx', hns, hqueue, hw⟩ := mem_ahead.mp hid
    rcases waits_of_exec hV hE hnow hq hx' hw with ⟨x, hx, hwx, hxns, hxqueue, -⟩ | ⟨t', h, -⟩
    · exact Finset.mem_insert_of_mem
        (mem_ahead.mpr ⟨hne, x, hx, hxns ▸ hns, hxqueue ▸ hqueue, hwx⟩)
    · obtain ⟨rfl, -⟩ := Prod.mk.inj (Option.some.inj (h.symm.trans hdated))
      exact Finset.mem_insert_self ..
  · refine .inl fun id hid => ?_
    obtain ⟨hne, x', hx', hns, hqueue, hw⟩ := mem_ahead.mp hid
    rcases waits_of_exec hV hE hnow hq hx' hw with ⟨x, hx, hwx, hxns, hxqueue, -⟩ | ⟨t, h⟩
    · exact mem_ahead.mpr ⟨hne, x, hx, hxns ▸ hns, hxqueue ▸ hqueue, hwx⟩
    · exact absurd ⟨id, t, h⟩ hdates

/-- What the run `r` is, for the polls. -/
def Same (r x : RunRow) : Prop :=
  x.runId = r.runId ∧ x.ns = r.ns ∧ x.taskQueue = r.taskQueue ∧ x.workflowType = r.workflowType

/-- The run `r` can be claimed at `a`, and nothing that ran since `base` has put it
back. -/
def Waits (r : RunRow) (a : Int) (base : List Ran) (m : Now) : Prop :=
  (∃ x, m.store.run r.runId = some x ∧ waits a x = true) ∧
    ∀ later, m.trace = later ++ base → ∀ ran ∈ later, putsBack r a ran = false

/-- The time `a` has passed, the run `r` has kept its queue and its type, or is gone for
good, and what ran before is `base` and what came after it. -/
def Known (r : RunRow) (a : Int) (base : List Ran) (m : Now) : Prop :=
  a < m.store.now ∧ m.store.Keeps r.runId (Same r) ∧ base <:+ m.trace

theorem known_invariant (r : RunRow) (a : Int) (base : List Ran) :
    Invariant (store.restrict (Lease.Guarded settings)) (Known r a base) := by
  rintro i e q m ⟨hnow, hkeeps, hbase⟩ ⟨hadm, -⟩
  refine ⟨Int.lt_of_lt_of_le hnow hadm.1, hkeeps.exec (fun x x' hx hc => ?_) hadm.2.1,
    hbase.trans (List.suffix_cons _ _)⟩
  cases hc with
  | _ => exact hx

/-- A poll that passes a waiting run by uses up one of the runs ahead of it. -/
theorem ahead_of_passes (hV : 0 ≤ settings.visibilityTimeoutSecs)
    (hE : 0 ≤ settings.heartbeatExtensionSecs) {r : RunRow} (hnow : a < e.now)
    (hq : Lease.Guarded settings i e q m) {base : List Ran}
    (hknown : Known r a base m) (hw : Waits r a base m) (hw' : Waits r a base (m.after store i e q))
    (hpass : passes r ⟨i, e, q, (store.exec e q m.store).1⟩ = true) :
    (ahead r a (q.exec e m.store.db).2).card + 1 ≤ (ahead r a m.store.db).card := by
  unfold passes at hpass
  split at hpass
  next ns taskQueue workerId types secs found heq =>
    obtain ⟨-, rfl, rfl, hans⟩ := Event.mk.inj heq
    have hsecs : secs = settings.visibilityTimeoutSecs := hq
    subst hsecs
    simp only [Bool.and_eq_true, decide_eq_true_eq] at hpass
    obtain ⟨⟨⟨rfl, rfl⟩, htypes⟩, hlocked⟩ := hpass
    obtain ⟨⟨x, hx, hwx⟩, -⟩ := hw
    obtain ⟨hs, t, hxt, hta⟩ := waits_iff.mp hwx
    obtain ⟨x₀, hx₀, hid, hns, hqueue, htype⟩ : ∃ x, m.store.run r.runId = some x ∧ Same r x := by
      rcases hknown.2.1 with h | ⟨hnone, -⟩
      · exact h
      · rw [hnone] at hx
        cases hx
    obtain rfl : x = x₀ := Option.some.inj (hx.symm.trans hx₀)
    have hav : x.available r.ns r.taskQueue types e = true := by
      have hdue : x.due e.now = true := by
        rw [RunRow.due, hxt]
        exact decide_eq_true (by omega)
      simp only [RunRow.available, hns, hqueue, htype, hid, hs, hdue, htypes, hlocked, decide_true,
        Bool.and_true]
    obtain ⟨y, hy, hyav, hle, hnew⟩ := taken_of_pollWorkflow (Db.mem_of_run hx) hav (eq_of_heq hans)
    simp only [RunRow.available, Bool.and_eq_true, decide_eq_true_eq] at hyav
    obtain ⟨⟨⟨⟨⟨hyns, hyqueue⟩, hys⟩, hydue⟩, -⟩, -⟩ := hyav
    have hclaim := not_waits_claim hV hnow y workerId
    have hne : y.runId ≠ r.runId := by
      intro heq
      obtain ⟨⟨x', hx', hwx'⟩, -⟩ := hw'
      rw [← heq] at hx'
      obtain rfl := Option.some.inj (hx'.symm.trans hnew)
      exact absurd hwx' (by simp [hclaim])
    have hyin : y.runId ∈ ahead r a m.store.db := by
      refine mem_ahead.mpr ⟨hne, y, hy, hyns, hyqueue, waits_iff.mpr ⟨hys, ?_⟩⟩
      cases hyt : y.availableAt with
      | none => simp [RunRow.due, hyt] at hydue
      | some t' =>
          rw [hyt, hxt] at hle
          exact ⟨t', rfl, Int.le_trans hle hta⟩
    have hyout : y.runId ∉ ahead r a
        ((Stmt.pollWorkflow r.ns r.taskQueue workerId types settings.visibilityTimeoutSecs).exec e
          m.store.db).2 := by
      intro hin
      obtain ⟨-, y', hy', -, -, hwy'⟩ := mem_ahead.mp hin
      obtain rfl := Option.some.inj (hy'.symm.trans hnew)
      exact absurd hwy' (by simp [hclaim])
    have hsub : ahead r a
        ((Stmt.pollWorkflow r.ns r.taskQueue workerId types settings.visibilityTimeoutSecs).exec e
          m.store.db).2 ⊆
          (ahead r a m.store.db).erase y.runId := by
      rcases ahead_of_exec hV hE hnow hq r with hsub | ⟨_, _, ⟨hdated, _⟩, _⟩
      · exact fun id hid => Finset.mem_erase.mpr ⟨fun heq => hyout (heq ▸ hid), hsub hid⟩
      · cases hdated
    calc _ ≤ ((ahead r a m.store.db).erase y.runId).card + 1 :=
      Nat.add_le_add_right (Finset.card_le_card hsub) 1
      _ = _ := Finset.card_erase_add_one hyin
  next => cases hpass

/-- The runs ahead of a waiting run are a credit of the polls that pass it by. -/
theorem credit (hV : 0 ≤ settings.visibilityTimeoutSecs) (hE : 0 ≤ settings.heartbeatExtensionSecs)
    (r : RunRow) (a : Int) (base : List Ran) :
    Credit (store.restrict (Lease.Guarded settings)) (Known r a base) (Waits r a base)
      (fun m => (ahead r a m.store.db).card) (passes r) (datesBack a) where
  known := known_invariant r a base
  before := by
    rintro i e q m ⟨hnow, -, mid, hmid⟩ ⟨hadm, hq⟩ ⟨⟨x', hx', hw'⟩, hback⟩
    refine ⟨?_, fun later htrace ran hran =>
      hback (_ :: later) (congrArg (List.cons _) htrace) ran (List.mem_cons_of_mem _ hran)⟩
    rcases waits_of_exec hV hE (Int.lt_of_lt_of_le hnow hadm.1) hq hx' hw' with
      ⟨x, hx, hw, -⟩ | ⟨t, hdated, hta⟩
    · exact ⟨x, hx, hw⟩
    · have hno := hback (_ :: mid) (congrArg (List.cons _) hmid.symm) _ (List.mem_cons_self ..)
      simp [putsBack, hdated, hta] at hno
  pays := by
    intro i e q m hI ha hw hw'
    have hnow : a < e.now := Int.lt_of_lt_of_le hI.1 ha.1.1
    show (ahead r a (q.exec e m.store.db).2).card + _ ≤ _
    cases hpass : passes r ⟨i, e, q, (store.exec e q m.store).1⟩ with
    | true =>
        have := ahead_of_passes hV hE hnow ha.2 hI hw hw' hpass
        simp only [Engine.restrict_exec, hpass, Bool.toNat_true]
        omega
    | false =>
        simp only [Engine.restrict_exec, hpass, Bool.toNat_false, Nat.add_zero]
        rcases ahead_of_exec hV hE hnow ha.2 r with hsub | ⟨id, t, ⟨hdated, hta⟩, hsub⟩
        · exact Nat.le_add_right_of_le (Finset.card_le_card hsub)
        · have hcard := Finset.card_le_card hsub
          have hins := Finset.card_insert_le id (ahead r a m.store.db)
          have hback : datesBack a ⟨i, e, q, (store.exec e q m.store).1⟩ = true := by
            simp [datesBack, hdated, hta]
          rw [hback, Bool.toNat_true]
          omega

end Steps

/-! ## Every run -/

/-- While a run waits that could be claimed at a time `a` that has passed, and is not itself
put back, the polls that succeed, are good for it and find it unlocked are at most the runs that
were ahead of it in its queue, and the statements since that have dated a run back to `a` or
before: firings for such a slot, and inserts, sleeps and retries of transactions that began so
long ago. -/
theorem waiting_run_is_overtaken_at_most (cfg : Config) (hV : 0 ≤ cfg.worker.visibilityTimeoutSecs)
    (hE : 0 ≤ cfg.worker.heartbeatExtensionSecs) {start a : Int} {p p' : ServerState}
    (h : Steps (Lease.service cfg) (.init (.empty start) []) p)
    (h' : Steps (Lease.service cfg) p p') (hnow : a < p.store.now) {r r' : RunRow}
    (hr : r ∈ p.store.db.runs.rows) (hr' : p'.store.run r.runId = some r')
    (hs : r'.status.isClaimable = true) (hdue : r'.due a = true) {later : List Ran}
    (htrace : p'.trace = later ++ p.trace) (hback : ∀ ran ∈ later, putsBack r a ran = false) :
    later.countP (passes r) ≤ (ahead r a p.store.db).card + later.countP (datesBack a) := by
  have hinv : Invariant (store.restrict (Lease.Guarded cfg.worker)) fun _ => True :=
    fun _ _ _ _ _ _ => trivial
  have hsound := (h.sound (Lease.serves cfg) hinv trivial (sound_nil _)).2
  have hrun := (h'.sound (Lease.serves cfg) hinv trivial hsound).1
  have hrow : p.store.run r.runId = some r := Db.run_of_mem hr
  have hwaits : waits a r' = true := by
    rw [waits, hs, hdue]
    rfl
  have hunput : ∀ since, p'.trace = since ++ p.trace → ∀ ran ∈ since, putsBack r a ran = false := by
    intro since hsince
    obtain rfl := List.append_cancel_right (htrace.symm.trans hsince)
    exact hback
  obtain ⟨-, since, hsince, hle⟩ := (credit hV hE r a p.trace).run hrun
    ⟨hnow, .inl ⟨r, hrow, rfl, rfl, rfl, rfl⟩, List.suffix_refl _⟩ ⟨⟨r', hr', hwaits⟩, hunput⟩
  obtain rfl := List.append_cancel_right (htrace.symm.trans hsince)
  exact Nat.le_trans (Nat.le_add_left ..) hle

/-- Two runs of one queue, and a worker that asks for one. -/
def oneOvertaken : ServerState := fireAll (Lease.service .sample) (.init (.empty 0) []) <|
  [.start (.startWorkflow ⟨"first", "queue", "type", none, "ns", "", none⟩)] ++
    runs 0 6 (.quiet 0 1) ++
    [.start (.startWorkflow ⟨"second", "queue", "type", none, "ns", "", none⟩)] ++
      runs 1 4 (.quiet 0 2) ++
    [.start (.register ⟨"ns", "queue", ["type"], "host", 7, ""⟩)] ++ runs 2 1 (.quiet 1 3) ++
    [.start (.pollTask ⟨"queue", "3", "ns", ["type"]⟩ 0)]

/-- The worker is given the first. -/
def overtaking : ServerState :=
  fireAll (Lease.service .sample) oneOvertaken (runs 3 2 (.quiet 2 4))

theorem waiting_run_is_overtaken_at_most_once :
    ∃ r later, overtaking.trace = later ++ oneOvertaken.trace ∧ r.runId = 2 ∧
      later.countP (passes r) ≤
        (ahead r 0 oneOvertaken.store.db).card + later.countP (datesBack 0) := by
  have hsteps : Steps (Lease.service .sample) (.init (.empty 0) []) oneOvertaken :=
    AllEnabled.steps (by decide +kernel)
  have hsteps' : Steps (Lease.service .sample) oneOvertaken overtaking :=
    AllEnabled.steps (by decide +kernel)
  have hrow : (oneOvertaken.store.run 2).isSome = true := by decide +kernel
  have hrow' : (overtaking.store.run 2).map (fun r => (r.status.isClaimable, r.due 0)) =
      some (true, true) := by
    decide +kernel
  obtain ⟨r, hr⟩ := Option.isSome_iff_exists.mp hrow
  obtain ⟨r', hr', hval⟩ := Option.map_eq_some_iff.mp hrow'
  obtain ⟨hs, hdue⟩ := Prod.mk.inj hval
  have hid : r.runId = 2 := Db.runId_of_run hr
  obtain ⟨later, htrace⟩ := hsteps'.exists_later
  have htwo : later = overtaking.trace.take 2 := by
    have hlen : overtaking.trace.length = 2 + oneOvertaken.trace.length := by decide +kernel
    rw [htrace, List.length_append] at hlen
    rw [htrace, List.take_left' (by omega)]
  have hback : ∀ ran ∈ later, putsBack r 0 ran = false := by
    have hdated : ∀ ran ∈ overtaking.trace.take 2, dated ran.env ran.query = none := by
      decide +kernel
    intro ran hran
    simp [putsBack, hdated ran (htwo ▸ hran)]
  exact ⟨r, later, htrace, hid, waiting_run_is_overtaken_at_most .sample (by decide) (by decide)
    hsteps hsteps' (by decide +kernel) (Db.mem_of_run hr) (hid ▸ hr') hs hdue htrace hback⟩

end Fairness

end Kagzi
