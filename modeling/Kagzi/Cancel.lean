import Kagzi.Lifecycle

/-!
# A cancel against the claims of polls

`cancel` makes two updates: the first is for a running run, the second for one that waits.
Under `READ COMMITTED` each of them sees the run as it is at that moment.  A run that a
poll claims between the two is waiting when the first looks for a running run, and running
when the second looks for a waiting one, so `CancelWorkflow` refuses a run that could be
cancelled all the time (`cancel_is_not_linearizable`).

`cancelled_iff` says that this is all that goes wrong, when the database does not fail: a
`CancelWorkflow` for a run that can be cancelled throughout succeeds exactly if the run is
not running when the second update, should there be one, is made.
-/

namespace Kagzi

open Atomic Relational

namespace Cancel

/-- The server without the requests that manage schedules. -/
abbrev service (cfg : Config) : Service Stmt Stmt.Result World Env Request Status Response :=
  Lifecycle.service cfg

/-- The run is there in the namespace, and it is pending, running or sleeping. -/
def Cancellable (w : World) (runId : Uuid) (ns : String) : Prop :=
  ∃ r, w.run runId = some r ∧ r.ns = ns ∧ r.status.isClaimable = true

instance (w : World) (runId : Uuid) (ns : String) : Decidable (Cancellable w runId ns) :=
  decidable_of_iff ((w.run runId).any fun r => r.ns = ns && r.status.isClaimable) (by
    simp [Cancellable, Option.any_eq_true])

/-- The statement is an update of `cancel`. -/
def cancels : Stmt → Bool
  | .cancelRunning _ _ => true
  | .cancelWaiting _ _ => true
  | _ => false

/-- The update has cancelled a run. -/
def hit : Ran → Bool
  | ⟨_, _, .cancelRunning _ _, .ok hit⟩ => hit
  | ⟨_, _, .cancelWaiting _ _, .ok hit⟩ => hit
  | _ => false

/-- A `CancelWorkflow` for a run, from its arrival in the state `p` to the state `p'`, where
it has returned. -/
structure Call (cfg : Config) (w : World) (p p' : ServerState) (req : CancelWorkflowRequest)
    (runId : Uuid) : Prop where
  reached : Steps (service cfg) (.init w []) p
  target : cfg.parseUuid req.runId = some runId
  named : req.ns ≠ ""
  run : Steps (service cfg) ⟨p.toMoment, p.calls ++
    [(.cancelWorkflow req, handle cfg (.cancelWorkflow req))]⟩ p'
  done : ∃ c, p'.calls[p.calls.length]? = some (.cancelWorkflow req, c) ∧ ∀ q k, c ≠ .call q k

/-- The run can be cancelled at every moment from the arrival of the call in `p` until the
call has cancelled it or has returned. -/
def StaysCancellable (w : World) (p p' : ServerState) (runId : Uuid) (ns : String) : Prop :=
  ∀ n ≤ p'.trace.length - p.trace.length,
    (∃ ran ∈ p'.trace.take n, ran.caller = p.calls.length) →
    (∀ ran ∈ p'.trace.drop n, ran.caller = p.calls.length → hit ran = false) →
      Cancellable (store.replay w (p'.trace.drop n)) runId ns

/-- The call has answered that the run is cancelled, and it is. -/
def Cancelled (p p' : ServerState) (req : CancelWorkflowRequest) (runId : Uuid) : Prop :=
  p'.calls[p.calls.length]? = some (.cancelWorkflow req, .ret (.cancelWorkflow true .cancelled)) ∧
    p'.store.HasStatus runId .cancelled

/-- A run that can be cancelled all the time is cancelled. -/
def CancelIsLinearizable (cfg : Config) : Prop :=
  ∀ (w : World) (p p' : ServerState) (req : CancelWorkflowRequest) (runId : Uuid),
    Call cfg w p p' req runId → StaysCancellable w p p' runId req.ns → Cancelled p p' req runId

/-- No update of the call faults, and the second one does not find the run running. -/
def Unclaimed (w : World) (i : Nat) (p : ServerState) (runId : Uuid) : Prop :=
  ∀ later ran earlier, p.trace = later ++ ran :: earlier → ran.caller = i → cancels ran.query = true →
    ran.env.fault = false ∧
      ((∃ ns, ran.query = .cancelWaiting runId ns) → ¬ (store.replay w earlier).HasStatus runId .running)

/-! ## One update -/

section Updates
variable {e : Env} {w : World} {runId : Uuid} {ns : String}

/-- An update of `cancel` never fails by itself. -/
theorem commit_cancel (db : Db) (p : RunRow → Bool) (now : Int) (hit : Bool) :
    (db.commitRuns p (RunRow.cancel now) hit).1 = .ok hit := by
  obtain ⟨runs, hu⟩ := db.runs.update?_of_mild (p := p) (f := RunRow.cancel now) fun r _ _ =>
    ⟨⟨.inl rfl, fun t ht => by cases ht⟩, fun x h => by
      rcases h with h | ⟨-, h, h'⟩ | ⟨-, h, -⟩
      · exact .inl h
      · rw [h'] at h
        cases h
      · cases h⟩
  simp [Db.commitRuns, Db.updateRuns, hu]

/-- What an update of `cancel` answers: whether it has found the run it looks for, which is
then cancelled. -/
structure Answers (w w' : World) (runId : Uuid) (found : RunRow → Prop) (hit : Bool) : Prop where
  hit_iff : hit = true ↔ ∃ r, w.run runId = some r ∧ found r
  cancelled : hit = true → w'.HasStatus runId .cancelled

theorem commit_answers {p : RunRow → Bool} {found : RunRow → Prop}
    (hp : ∀ r, p r = true ↔ r.runId = runId ∧ found r) (now : Int) {w' : World}
    (hw' : w'.db = (w.db.commitRuns p (RunRow.cancel now) (w.db.runs.rows.any p)).2) :
    Answers w w' runId found (w.db.runs.rows.any p) := by
  constructor
  · rw [List.any_eq_true]
    constructor
    · rintro ⟨r, hmem, hr⟩
      obtain ⟨hid, hfound⟩ := (hp r).mp hr
      exact ⟨r, hid ▸ Db.run_of_mem hmem, hfound⟩
    · rintro ⟨r, hr, hfound⟩
      exact ⟨r, Db.mem_of_run hr, (hp r).mpr ⟨Db.runId_of_run hr, hfound⟩⟩
  · intro hhit
    obtain ⟨r, -, -, hnew⟩ := Db.commitRuns_hit (f := RunRow.cancel now) (fun _ => rfl)
      (fun r hr => ((hp r).mp hr).1) ((commit_cancel w.db p now _).trans (congrArg Except.ok hhit))
    refine ⟨r.cancel now, ?_, rfl⟩
    show w'.db.run runId = _
    rw [hw', hnew]

/-- The first update looks for a running run. -/
def RunningIn (ns : String) (r : RunRow) : Prop := r.ns = ns ∧ r.status = .running

/-- The second update looks for a waiting one. -/
def WaitingIn (ns : String) (r : RunRow) : Prop :=
  r.ns = ns ∧ (r.status = .pending ∨ r.status = .sleeping)

theorem exec_of_safe {q : Stmt} (hfault : e.fault = false) :
    store.exec e q w = ((q.sql e w.db).1,
      ⟨e.now, (q.sql e w.db).2, w.retired ++ w.db.deleted (q.sql e w.db).2⟩) := by
  rw [← Stmt.exec_of_safe hfault]
  rfl

theorem cancelRunning_answers (w : World) (runId : Uuid) (ns : String) (hfault : e.fault = false) :
    ∃ hit, (store.exec e (.cancelRunning runId ns) w).1 = .ok hit ∧
      Answers w (store.exec e (.cancelRunning runId ns) w).2 runId (RunningIn ns) hit := by
  let p : RunRow → Bool := fun r => r.runId = runId && r.ns = ns && r.status = .running
  rw [exec_of_safe hfault]
  refine ⟨_, commit_cancel w.db p e.began _, commit_answers (p := p) (fun r => ?_) e.began rfl⟩
  simp [p, RunningIn, and_assoc]

theorem cancelWaiting_answers (w : World) (runId : Uuid) (ns : String) (hfault : e.fault = false) :
    ∃ hit, (store.exec e (.cancelWaiting runId ns) w).1 = .ok hit ∧
      Answers w (store.exec e (.cancelWaiting runId ns) w).2 runId (WaitingIn ns) hit := by
  let p : RunRow → Bool := fun r =>
    r.runId = runId && r.ns = ns && (r.status = .pending || r.status = .sleeping)
  rw [exec_of_safe hfault]
  refine ⟨_, commit_cancel w.db p e.began _, commit_answers (p := p) (fun r => ?_) e.began rfl⟩
  simp [p, WaitingIn, and_assoc]

/-- A statement that answers has not faulted. -/
theorem safe_of_ok {q : Stmt} {a : q.Ans} (hq : q.isLocal = false) (h : (store.exec e q w).1 = .ok a) :
    e.fault = false := by
  rw [Bool.eq_false_iff]
  intro hfault
  rw [store_exec_fst, Stmt.exec_of_fault hfault hq] at h
  cases h

/-- A run that can be cancelled is running or waiting. -/
theorem Cancellable.cases (h : Cancellable w runId ns) :
    (∃ r, w.run runId = some r ∧ RunningIn ns r) ∨ ∃ r, w.run runId = some r ∧ WaitingIn ns r := by
  obtain ⟨r, hr, hns, hs⟩ := h
  cases hstatus : r.status with
  | pending => exact .inr ⟨r, hr, hns, .inl hstatus⟩
  | running => exact .inl ⟨r, hr, hns, hstatus⟩
  | sleeping => exact .inr ⟨r, hr, hns, .inr hstatus⟩
  | _ =>
      rw [hstatus] at hs
      cases hs

end Updates

/-! ## The updates of a call -/

/-- The updates that a call has made, newest first. -/
def updates (i : Nat) (trace : List Ran) : List Ran :=
  trace.filter fun ran => ran.caller = i && cancels ran.query

/-- The updates of a call that is past them, and the answer of the last one. -/
inductive Made (i : Nat) (runId : Uuid) (ns : String) : List Ran → Except StoreError Bool → Prop where
  | first {e : Env} {answer : Except StoreError Bool} :
      answer ≠ .ok false → Made i runId ns [⟨i, e, .cancelRunning runId ns, answer⟩] answer
  | second {e e' : Env} {answer : Except StoreError Bool} :
      Made i runId ns [⟨i, e', .cancelWaiting runId ns, answer⟩,
        ⟨i, e, .cancelRunning runId ns, .ok false⟩] answer

section Judgements
variable {cfg : Config} {i : Nat} {runId : Uuid} {ns : String}

/-- The engine of the runs that `Lifecycle` knows. -/
abbrev engine : Engine Stmt Stmt.Result World Env := store.restrict Lifecycle.Guarded

/-- Every statement is allowed. -/
abbrev free : Condition Stmt Stmt.Result World Env := fun _ _ _ _ => True

theorem updates_cons_of_ne {ran : Ran} {trace : List Ran} (h : ran.caller ≠ i ∨ cancels ran.query = false) :
    updates i (ran :: trace) = updates i trace := by
  unfold updates
  refine List.filter_cons_of_neg ?_
  rcases h with h | h <;> simp [h]

theorem updates_cons {ran : Ran} {trace : List Ran} (hcaller : ran.caller = i)
    (hq : cancels ran.query = true) : updates i (ran :: trace) = ran :: updates i trace := by
  unfold updates
  exact List.filter_cons_of_pos (by simp [hcaller, hq])

/-- The other callers make no updates of this one. -/
theorem updates_stable (P : List Ran → Prop) : Stable engine free i fun m => P (updates i m.trace) := by
  intro j e q m hj h _ _
  rw [Moment.after_trace, updates_cons_of_ne (.inl hj)]
  exact h

/-- What a call knows once it has cancelled its run. -/
def Hit (i : Nat) (runId : Uuid) (ns : String) (m : Now) : Prop :=
  Made i runId ns (updates i m.trace) (.ok true) ∧ m.store.HasStatus runId .cancelled

/-- What a call knows when it has not. -/
def Missed (i : Nat) (runId : Uuid) (ns : String) (m : Now) : Prop :=
  ∃ answer, answer ≠ .ok true ∧ Made i runId ns (updates i m.trace) answer

theorem hit_stable : Stable engine free i (Hit i runId ns) :=
  (updates_stable fun l => Made i runId ns l (.ok true)).and
    (Lifecycle.hasStatus_invariant rfl).restrict.stable

theorem missed_stable : Stable engine free i (Missed i runId ns) :=
  updates_stable fun l => ∃ answer, answer ≠ .ok true ∧ Made i runId ns l answer

/-- The rest of a call makes no further update. -/
theorem hit_after {e : Env} {q : Stmt} {m : Now} (hq : cancels q = false) (hm : Hit i runId ns m)
    (ha : engine.admits i e q m) : Hit i runId ns (m.after engine i e q) := by
  refine ⟨?_, Lifecycle.hasStatus_invariant rfl i e q m hm.2 ha⟩
  rw [Moment.after_trace, updates_cons_of_ne (.inr hq)]
  exact hm.1

theorem missed_after {e : Env} {q : Stmt} {m : Now} (hq : cancels q = false) (hm : Missed i runId ns m) :
    Missed i runId ns (m.after engine i e q) := by
  unfold Missed
  rw [Moment.after_trace, updates_cons_of_ne (.inr hq)]
  exact hm

/-- The first update of a call that has made none. -/
theorem updates_first (runId : Uuid) (ns : String) (e : Env) {m : Now} (hm : ∀ ran ∈ m.trace, ran.caller ≠ i) :
    updates i (m.after engine i e (.cancelRunning runId ns)).trace =
      [⟨i, e, .cancelRunning runId ns, (store.exec e (.cancelRunning runId ns) m.store).1⟩] := by
  have hnil : updates i m.trace = [] :=
    List.filter_eq_nil_iff.mpr fun ran hran => by simp [hm ran hran]
  rw [Moment.after_trace, updates_cons (i := i) rfl rfl, hnil]
  rfl

/-- What is known after an update that has hit. -/
theorem hit_of_answer {e : Env} {q : Stmt} {m : Now} {found : RunRow → Prop}
    (hmade : Made i runId ns (updates i (m.after engine i e q).trace) (.ok true))
    (ha : Answers m.store (store.exec e q m.store).2 runId found true) :
    Hit i runId ns (m.after engine i e q) :=
  ⟨hmade, ha.cancelled rfl⟩

theorem sat_cancelWaiting {e : Env} :
    Sat engine free i
      (fun m => updates i m.trace = [⟨i, e, .cancelRunning runId ns, .ok false⟩])
      (sql (.cancelWaiting runId ns))
      (fun hit m => if hit = true then Hit i runId ns m else Missed i runId ns m)
      (fun _ => Missed i runId ns) := by
  intro e' m hm ha
  have hmade : Made i runId ns (updates i (m.after engine i e' (.cancelWaiting runId ns)).trace)
      (store.exec e' (.cancelWaiting runId ns) m.store).1 := by
    rw [Moment.after_trace, updates_cons (i := i) rfl rfl, hm]
    exact .second
  refine ⟨trivial, ?_⟩
  show ∃ K', _ ∧ _ ∧ Sat _ _ _ _ (.ofExcept (store.exec e' (.cancelWaiting runId ns) m.store).1) _ _
  cases hres : (store.exec e' (.cancelWaiting runId ns) m.store).1 with
  | error x =>
      rw [hres] at hmade
      exact ⟨_, missed_stable, ⟨_, by simp, hmade⟩, fun _ h => h⟩
  | ok hit =>
      rw [hres] at hmade
      cases hit with
      | false => exact ⟨_, missed_stable, ⟨_, by simp, hmade⟩, fun _ h => h⟩
      | true =>
          obtain ⟨hit, hanswer, hcancelled⟩ := cancelWaiting_answers m.store runId ns
            (safe_of_ok rfl hres)
          obtain rfl := Except.ok.inj (hanswer.symm.trans hres)
          exact ⟨_, hit_stable, hit_of_answer hmade hcancelled, fun _ h => h⟩

theorem sat_cancel :
    Sat engine free i (fun m => ∀ ran ∈ m.trace, ran.caller ≠ i)
      (WorkflowRepository.cancel runId ns)
      (fun hit m => if hit = true then Hit i runId ns m else Missed i runId ns m)
      (fun _ => Missed i runId ns) := by
  intro e m hm ha
  have hmade := updates_first runId ns e hm
  refine ⟨trivial, ?_⟩
  show ∃ K', _ ∧ _ ∧ Sat _ _ _ _
    (Prog.ofExcept (store.exec e (.cancelRunning runId ns) m.store).1 >>= _) _ _
  cases hres : (store.exec e (.cancelRunning runId ns) m.store).1 with
  | error x =>
      rw [hres] at hmade
      exact ⟨_, missed_stable, ⟨.error x, by simp, hmade ▸ .first (by simp)⟩, fun _ h => h⟩
  | ok hit =>
      rw [hres] at hmade
      cases hit with
      | false =>
          exact ⟨_, updates_stable fun l => l = [⟨i, e, .cancelRunning runId ns, .ok false⟩], hmade,
            sat_cancelWaiting⟩
      | true =>
          obtain ⟨hit, hanswer, hcancelled⟩ := cancelRunning_answers m.store runId ns
            (safe_of_ok rfl hres)
          obtain rfl := Except.ok.inj (hanswer.symm.trans hres)
          exact ⟨_, hit_stable, hit_of_answer (hmade ▸ .first (by simp)) hcancelled, fun _ h => h⟩

/-- The record of the event makes no update of a run. -/
theorem record_uses (cfg : Config) (runId : Uuid) :
    (StepRepository.recordLifecycleEvent cfg.payloadMaxSizeBytes cfg.utf8 runId .workflowCancelled
      none).Uses fun q => cancels q = false := by
  refine recordLifecycleEvent_uses (fun {q} h => ?_) _ _ _ (fun _ _ _ _ => rfl) fun _ _ _ _ => ⟨rfl, rfl⟩
  cases q with
  | cancelRunning _ _ => cases h
  | cancelWaiting _ _ => cases h
  | _ => rfl

/-- `cancel_workflow`, for a request that is well formed. -/
theorem sat_cancelWorkflow {req : CancelWorkflowRequest} (hid : cfg.parseUuid req.runId = some runId)
    (hns : req.ns ≠ "") :
    Sat engine free i (fun m => ∀ ran ∈ m.trace, ran.caller ≠ i)
      (WorkflowService.cancelWorkflow cfg req)
      (fun resp m => resp = .cancelWorkflow true .cancelled ∧ Hit i runId req.ns m)
      (fun _ => Missed i runId req.ns) := by
  unfold WorkflowService.cancelWorkflow
  simp only [Config.uuid, hid, orFail, requireNonEmpty, if_neg hns, Prog.ret_bind]
  refine Sat.bind (sat_cancel.mapError fun _ _ h => h) fun hit => ?_
  cases hit with
  | true =>
      have hrecord := Sat.of_uses (M := engine) (K := Hit i runId req.ns)
        (record_uses cfg runId) hit_stable
        fun e q m hq hm ha => ⟨trivial, hit_after hq hm ha⟩
      exact Sat.bind (P := fun _ => Hit i runId req.ns)
        (hrecord.attempt (fun _ _ h => h) fun _ _ h => h) fun _ _ hm => ⟨rfl, hm⟩
  | false =>
      change Sat engine free i (Missed i runId req.ns) (stmt (.checkWorkflowState runId req.ns) >>= _) _ _
      have hcheck : (stmt (.checkWorkflowState runId req.ns)).Uses fun q => cancels q = false :=
        uses_stmt rfl
      refine Sat.bind (Sat.of_uses hcheck missed_stable
        fun e q m hq hm _ => ⟨trivial, missed_after hq hm⟩) fun found => ?_
      split
      next => exact fun _ h => h
      next => exact fun _ h => h

/-- A call that answers has cancelled its run. -/
def Answered (cfg : Config) (i : Nat) (req : Request) (resp : Response) (m : Now) : Prop :=
  ∀ r runId, req = .cancelWorkflow r → cfg.parseUuid r.runId = some runId → r.ns ≠ "" →
    resp = .cancelWorkflow true .cancelled ∧ Hit i runId r.ns m

/-- A call that refuses has not. -/
def Refused (cfg : Config) (i : Nat) (req : Request) (_ : Status) (m : Now) : Prop :=
  ∀ r runId, req = .cancelWorkflow r → cfg.parseUuid r.runId = some runId → r.ns ≠ "" →
    Missed i runId r.ns m

theorem serves (cfg : Config) :
    Serves ((service cfg).restrict Lifecycle.Guarded) free (fun _ => True) (Answered cfg)
      (Refused cfg) := by
  intro i req _
  refine ⟨fun m => ∀ ran ∈ m.trace, ran.caller ≠ i, ?_, fun _ _ h => h, ?_⟩
  · intro j e q m hj hm _ _ ran hran
    rcases List.mem_cons.mp hran with rfl | hran
    · exact hj
    · exact hm ran hran
  change Sat engine free i _ (handle cfg req) (Answered cfg i req) (Refused cfg i req)
  by_cases hform : ∃ r runId, req = .cancelWorkflow r ∧ cfg.parseUuid r.runId = some runId ∧ r.ns ≠ ""
  · obtain ⟨r, runId, rfl, hid, hns⟩ := hform
    refine (sat_cancelWorkflow hid hns).mono (fun _ h => h) ?_ ?_
    · rintro resp m hm r' runId' heq hid' -
      obtain rfl := Request.cancelWorkflow.inj heq
      obtain rfl := Option.some.inj (hid.symm.trans hid')
      exact hm
    · rintro status m hm r' runId' heq hid' -
      obtain rfl := Request.cancelWorkflow.inj heq
      obtain rfl := Option.some.inj (hid.symm.trans hid')
      exact hm
  · refine (Sat.of_invariant (K := fun _ => True) (fun _ _ _ => trivial)
      fun _ _ _ _ _ _ => trivial).mono (fun _ _ => trivial) ?_ ?_
    · exact fun _ _ _ r runId heq hid hns => (hform ⟨r, runId, heq, hid, hns⟩).elim
    · exact fun _ _ _ r runId heq hid hns => (hform ⟨r, runId, heq, hid, hns⟩).elim

end Judgements

/-! ## The call -/

section Calls
variable {cfg : Config} {w : World} {p p' : ServerState} {req : CancelWorkflowRequest} {runId : Uuid}

theorem Call.steps (h : Call cfg w p p' req runId) : Steps (service cfg) (.init w []) p' :=
  (h.reached.tail (.start (S := service cfg) (r := .cancelWorkflow req) rfl)).trans h.run

/-- A call that has returned has answered or refused. -/
theorem Call.outcome (h : Call cfg w p p' req runId) :
    (p'.calls[p.calls.length]? = some (.cancelWorkflow req, .ret (.cancelWorkflow true .cancelled)) ∧
        Hit p.calls.length runId req.ns p'.toMoment) ∨
      (¬ Cancelled p p' req runId ∧ Missed p.calls.length runId req.ns p'.toMoment) := by
  obtain ⟨hguarded, -⟩ := h.steps.sound (Lifecycle.serves cfg) (fun _ _ _ _ _ _ => trivial) trivial
    (sound_nil w)
  obtain ⟨-, hsound⟩ := hguarded.sound (serves cfg) (fun _ _ _ _ _ _ => trivial) trivial (sound_nil w)
  obtain ⟨c, hget, hdone⟩ := h.done
  cases c with
  | call q k => exact absurd rfl (hdone q k)
  | ret resp =>
      obtain ⟨rfl, hhit⟩ := hsound.result hget req runId rfl h.target h.named
      exact .inl ⟨hget, hhit⟩
  | fail status =>
      refine .inr ⟨fun hcancelled => ?_, hsound.error hget req runId rfl h.target h.named⟩
      rw [hcancelled.1] at hget
      cases hget

/-- An update in the trace was answered by the store as it was. -/
theorem Call.answer (h : Call cfg w p p' req runId) {later earlier : List Ran} {ran : Ran}
    (htrace : p'.trace = later ++ ran :: earlier) :
    ran.answer = (store.exec ran.env ran.query (store.replay w earlier)).1 :=
  (h.steps.recalled.2 later ran earlier htrace).2

theorem mem_updates {i : Nat} {trace : List Ran} {ran : Ran} :
    ran ∈ updates i trace ↔ ran ∈ trace ∧ ran.caller = i ∧ cancels ran.query = true := by
  simp [updates]

/-- The updates of the call come after its arrival. -/
theorem Call.late (h : Call cfg w p p' req runId) {later earlier : List Ran} {ran : Ran}
    (htrace : p'.trace = later ++ ran :: earlier) (hcaller : ran.caller = p.calls.length) :
    later.length + 1 ≤ p'.trace.length - p.trace.length := by
  obtain ⟨since, hsince⟩ := h.run.exists_later
  have hnum : p.Numbered := h.reached.numbered fun _ hran => nomatch hran
  have hsplit : later ++ ran :: earlier = since ++ p.trace := htrace.symm.trans hsince
  have hlt : later.length < since.length := by
    by_contra hle
    have hmem : ran ∈ p.trace := by
      have hget : (since ++ p.trace)[later.length]? = some ran := by
        rw [← hsplit]
        simp
      rw [List.getElem?_append_right (by omega)] at hget
      exact List.mem_of_getElem? hget
    have := hnum ran hmem
    omega
  have hlen : p'.trace.length = since.length + p.trace.length := by
    rw [hsince]
    exact List.length_append
  omega

/-- When the run can be cancelled throughout, the second update finds it running or waiting. -/
theorem Call.cancellable (h : Call cfg w p p' req runId)
    (hstays : StaysCancellable w p p' runId req.ns) {later earlier : List Ran} {ran : Ran}
    (htrace : p'.trace = later ++ ran :: earlier) (hcaller : ran.caller = p.calls.length)
    (hmiss : ∀ ran ∈ updates p.calls.length p'.trace, hit ran = false) :
    Cancellable (store.replay w earlier) runId req.ns := by
  have hdrop : p'.trace.drop (later.length + 1) = earlier := by simp [htrace]
  have hat := hstays (later.length + 1) (h.late htrace hcaller)
    ⟨ran, by simp [htrace, List.take_append], hcaller⟩
  rw [hdrop] at hat
  refine hat fun ran' hran' hcaller' => ?_
  cases hq : cancels ran'.query with
  | true =>
      refine hmiss ran' (mem_updates.mpr ⟨?_, hcaller', hq⟩)
      rw [htrace]
      exact List.mem_append_right _ (List.mem_cons_of_mem _ hran')
  | false =>
      unfold hit
      split
      next => cases hq
      next => cases hq
      next => rfl

/-- A call that has missed a run that could be cancelled throughout has made its second update
when the run was running, or an update that faulted. -/
theorem Call.claimed (h : Call cfg w p p' req runId)
    (hstays : StaysCancellable w p p' runId req.ns)
    (hmissed : Missed p.calls.length runId req.ns p'.toMoment)
    (hunclaimed : Unclaimed w p.calls.length p' runId) : False := by
  obtain ⟨answer, hne, hmade⟩ := hmissed
  have hsplit : ∀ ran ∈ updates p.calls.length p'.trace, ∃ later earlier,
      p'.trace = later ++ ran :: earlier ∧ ran.caller = p.calls.length ∧ cancels ran.query = true := by
    intro ran hran
    obtain ⟨hmem, hcaller, hq⟩ := mem_updates.mp hran
    obtain ⟨later, earlier, htrace⟩ := List.append_of_mem hmem
    exact ⟨later, earlier, htrace, hcaller, hq⟩
  generalize hupd : updates p.calls.length p'.trace = made at hmade hsplit
  cases hmade with
  | @first e answer hne' =>
      obtain ⟨later, earlier, htrace, hcaller, hq⟩ := hsplit _ (List.mem_singleton_self _)
      obtain ⟨hit, hanswer, -⟩ := cancelRunning_answers (store.replay w earlier) runId
        req.ns (hunclaimed _ _ _ htrace hcaller hq).1
      have hsame : answer = .ok hit := (h.answer htrace).trans hanswer
      cases hit with
      | true => exact hne hsame
      | false => exact hne' hsame
  | @second e e' answer =>
      obtain ⟨later, earlier, htrace, hcaller, hq⟩ := hsplit _ (List.mem_cons_self ..)
      obtain ⟨hfault, hidle⟩ := hunclaimed _ _ _ htrace hcaller hq
      obtain ⟨hit', hanswer, hiff, -⟩ := cancelWaiting_answers (store.replay w earlier)
        runId req.ns hfault
      have hsame : answer = .ok hit' := (h.answer htrace).trans hanswer
      have hfalse : hit' = false := by
        cases hit' with
        | true => exact absurd hsame hne
        | false => rfl
      have hcancellable := h.cancellable hstays htrace hcaller fun ran hran => by
        rw [hupd] at hran
        rcases List.mem_cons.mp hran with rfl | hran
        · rw [hsame, hfalse]
          rfl
        · obtain rfl := List.mem_singleton.mp hran
          rfl
      rcases hcancellable.cases with ⟨r, hr, -, hs⟩ | hwaiting
      · exact hidle ⟨_, rfl⟩ ⟨r, hr, hs⟩
      · rw [hfalse] at hiff
        cases hiff.mpr hwaiting

/-- The updates of a call that has cancelled its run have found it as they looked for it. -/
theorem Call.unclaimed (h : Call cfg w p p' req runId)
    (hmade : Made p.calls.length runId req.ns (updates p.calls.length p'.trace) (.ok true)) :
    Unclaimed w p.calls.length p' runId := by
  intro later ran earlier htrace hcaller hq
  have hmem : ran ∈ updates p.calls.length p'.trace :=
    mem_updates.mpr ⟨by rw [htrace]; simp, hcaller, hq⟩
  have hanswer := h.answer htrace
  generalize updates p.calls.length p'.trace = made at hmade hmem
  cases hmade with
  | first _ =>
      obtain rfl := List.mem_singleton.mp hmem
      refine ⟨safe_of_ok rfl hanswer.symm, fun hwaiting => ?_⟩
      obtain ⟨ns, hwaiting⟩ := hwaiting
      cases hwaiting
  | second =>
      rcases List.mem_cons.mp hmem with rfl | hmem
      · have hfault := safe_of_ok rfl hanswer.symm
        refine ⟨hfault, fun _ hrunning => ?_⟩
        obtain ⟨hit', hanswer', hiff, -⟩ := cancelWaiting_answers (store.replay w earlier)
          runId req.ns hfault
        obtain rfl := Except.ok.inj (hanswer.trans hanswer')
        obtain ⟨r, hr, -, hs⟩ := hiff.mp rfl
        obtain ⟨r', hr', hs'⟩ := hrunning
        obtain rfl := Option.some.inj (hr.symm.trans hr')
        rw [hs'] at hs
        rcases hs with hs | hs <;> cases hs
      · obtain rfl := List.mem_singleton.mp hmem
        refine ⟨safe_of_ok rfl hanswer.symm, fun hwaiting => ?_⟩
        obtain ⟨ns, hwaiting⟩ := hwaiting
        cases hwaiting

/-- In every run of the server, a `CancelWorkflow` for a run that can be cancelled throughout
succeeds exactly if none of its updates faults, and the second does not find the run running. -/
theorem cancelled_iff (h : Call cfg w p p' req runId)
    (hstays : StaysCancellable w p p' runId req.ns) :
    Cancelled p p' req runId ↔ Unclaimed w p.calls.length p' runId := by
  rcases h.outcome with ⟨hget, hmade, hcancelled⟩ | ⟨hnot, hmissed⟩
  · exact ⟨fun _ => h.unclaimed hmade, fun _ => ⟨hget, hcancelled⟩⟩
  · exact ⟨fun hc => absurd hc hnot, fun hu => (h.claimed hstays hmissed hu).elim⟩

end Calls

/-! ## Two runs -/

/-- A run that waits, and a worker whose poll is about to look for one. -/
def polled : ServerState :=
  fireAll (service .sample) (.init (.empty 0) [])
    ([.start (.startWorkflow ⟨"job", "queue", "type", none, "ns", "", none⟩)] ++
      runs 0 6 (.quiet 0 1) ++
    [.start (.register ⟨"ns", "queue", ["type"], "host", 7, ""⟩)] ++ runs 1 1 (.quiet 0 2) ++
    [.start (.pollTask ⟨"queue", "2", "ns", ["type"]⟩ 0)] ++ runs 2 1 (.quiet 0 3))

/-- A cancel of the run, and what follows it. -/
def cancelling (schedule : List (Action Env Request)) : ServerState :=
  fireAll (service .sample) ⟨polled.toMoment, polled.calls ++
    [(.cancelWorkflow ⟨"1", "ns"⟩, handle .sample (.cancelWorkflow ⟨"1", "ns"⟩))]⟩ schedule

/-- The poll comes late. -/
def alone : List (Action Env Request) := runs 3 6 (.quiet 1 4) ++ runs 2 1 (.quiet 1 5)

/-- The call has an answer. -/
def isAnswered : Rpc Response → Bool
  | .call _ _ => false
  | _ => true

/-- The poll claims the run between the two updates. -/
def between : List (Action Env Request) :=
  runs 3 1 (.quiet 1 4) ++ runs 2 1 (.quiet 1 5) ++ runs 3 2 (.quiet 1 6)

theorem steps_polled : Steps (service .sample) (.init (.empty 0) []) polled :=
  AllEnabled.steps (by decide +kernel)

theorem cancelled_iff_alone :
    Cancelled polled (cancelling alone) ⟨"1", "ns"⟩ 1 ∧ Unclaimed (.empty 0) 3 (cancelling alone) 1 := by
  have hreturned : (cancelling alone).returned 3 =
      some (.cancelWorkflow ⟨"1", "ns"⟩, .cancelWorkflow true .cancelled) := by decide +kernel
  have hget := Pool.calls_of_returned hreturned
  have hcall : Call .sample (.empty 0) polled (cancelling alone) ⟨"1", "ns"⟩ 1 :=
    { reached := steps_polled
      target := by decide
      named := by decide
      run := AllEnabled.steps (by decide +kernel)
      done := ⟨_, hget, fun _ _ h => by cases h⟩ }
  have hstays : StaysCancellable (.empty 0) polled (cancelling alone) 1 "ns" := by
    unfold StaysCancellable
    decide +kernel
  have hstatus : ((cancelling alone).store.run 1).map RunRow.status = some .cancelled := by
    decide +kernel
  have hcancelled : Cancelled polled (cancelling alone) ⟨"1", "ns"⟩ 1 :=
    ⟨hget, by simpa [World.HasStatus, Option.map_eq_some_iff] using hstatus⟩
  exact ⟨hcancelled, (cancelled_iff hcall hstays).mp hcancelled⟩

theorem cancel_is_not_linearizable : ¬ CancelIsLinearizable .sample := by
  intro hall
  have hdone : ((cancelling between).calls[3]?).any (fun call => isAnswered call.2) = true := by
    decide +kernel
  have hreq : ((cancelling between).calls[3]?).map Prod.fst = some (.cancelWorkflow ⟨"1", "ns"⟩) := by
    decide +kernel
  obtain ⟨⟨req, c⟩, hget, rfl⟩ := Option.map_eq_some_iff.mp hreq
  have hcall : Call .sample (.empty 0) polled (cancelling between) ⟨"1", "ns"⟩ 1 :=
    { reached := steps_polled
      target := by decide
      named := by decide
      run := AllEnabled.steps (by decide +kernel)
      done := ⟨c, hget, fun q k h => by simp [hget, h, isAnswered] at hdone⟩ }
  have hstays : StaysCancellable (.empty 0) polled (cancelling between) 1 "ns" := by
    unfold StaysCancellable
    decide +kernel
  have hcancelled := hall (.empty 0) polled (cancelling between) ⟨"1", "ns"⟩ 1 hcall hstays
  have hstatus : ((cancelling between).store.run 1).map RunRow.status = some .running := by
    decide +kernel
  obtain ⟨r, hr, hs⟩ := hcancelled.2
  rw [hr, Option.map_some, hs] at hstatus
  cases hstatus

end Cancel

end Kagzi
