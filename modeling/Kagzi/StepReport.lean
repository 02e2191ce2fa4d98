import Kagzi.Server.Footprint
import Kagzi.Store.StepChange

/-!
# What a completion reports

`complete_step` is to answer with the step that it has completed.  It reads the step back
with the paginated listing of attempts, which has the oldest attempt first, for a page of one
item, and takes the last item of that page.  So it answers with the oldest attempt of the
step.  When the step has failed before, that is a failed attempt
(`first_attempt_is_reported`).

`reports_iff` says when the answer is the latest attempt: when that is the oldest one, and
still completed when it is read back.
-/

namespace Kagzi

open Atomic Relational

namespace StepReport

/-- The server, for all requests. -/
abbrev service (cfg : Config) : Service Stmt Stmt.Result World Env Request Status Response :=
  server cfg fun _ => True

/-- The statement that reads the step back. -/
def readsBack : Stmt → Bool
  | .listSteps _ _ _ _ => true
  | _ => false

/-- The answer is the latest attempt of the step, with its output, and it is completed. -/
def Shows (cfg : Config) (w : World) (runId : Uuid) (stepId : String) (step : Step) : Prop :=
  ∃ s, w.latest runId stepId = some s ∧ s.status = .completed ∧ step = WorkerService.stepToProto cfg s

/-- When the call reads the step back, its answer is the latest attempt. -/
def Reports (cfg : Config) (w : World) (i : Nat) (p : ServerState) (runId : Uuid) (stepId : String)
    (step : Step) : Prop :=
  Did store w i (fun ran before _ => (∃ ns, ran.query = .listSteps runId ns stepId 1) ∧
    Shows cfg before runId stepId step) p.trace

/-- Every `CompleteStep` that answers reports the step it has completed. -/
def CompletionsAreReported (cfg : Config) : Prop :=
  ∀ (now : Int) (p : ServerState), Steps (service cfg) (.init (.empty now) []) p →
    ∀ (i : Nat) (req : CompleteStepRequest) (step : Step) (runId : Uuid),
      p.returned i = some (.completeStep req, .completeStep step) →
        cfg.parseUuid req.runId = some runId →
          Reports cfg (.empty now) i p runId req.stepId step

/-! ## The condition -/

/-- The attempt comes before the other in the listing. -/
def Before (s s' : StepRow) : Prop :=
  s.createdAt.getD 0 < s'.createdAt.getD 0 ∨
    (s.createdAt.getD 0 = s'.createdAt.getD 0 ∧ s.attemptId < s'.attemptId)

instance : DecidableRel Before := fun _ _ => inferInstanceAs (Decidable (_ ∨ _))

/-- The latest attempt of the step in the namespace is completed, and it comes before all
others. -/
def OldestIsLatest (w : World) (runId : Uuid) (ns stepId : String) : Prop :=
  ∃ s, w.latest runId stepId = some s ∧ s.status = .completed ∧ s.ns = ns ∧
    ∀ s' ∈ w.db.steps.rows, s'.ofStep runId stepId = true → s'.ns = ns → s' ≠ s → Before s s'

/-- That is so when the call reads the step back. -/
def ReadsOldest (w : World) (i : Nat) (p : ServerState) (runId : Uuid) (stepId : String) : Prop :=
  Did store w i (fun ran before _ => ∃ ns, ran.query = .listSteps runId ns stepId 1 ∧
    OldestIsLatest before runId ns stepId) p.trace

/-! ## The listing -/

section Listing
variable {e : Env} {w : World} {runId : Uuid} {ns stepId : String} {s : StepRow}

/-- The order of the listing. -/
def Precedes (a b : StepRow) : Prop :=
  a.createdAt.getD 0 < b.createdAt.getD 0 ∨
    (a.createdAt.getD 0 = b.createdAt.getD 0 ∧ a.attemptId ≤ b.attemptId)

instance : DecidableRel Precedes := fun _ _ => inferInstanceAs (Decidable (_ ∨ _))

instance : Std.Total Precedes where
  total a b := by
    have h : ∀ (x y : Int) (m n : Nat), (x < y ∨ (x = y ∧ m ≤ n)) ∨ (y < x ∨ (y = x ∧ n ≤ m)) := by
      omega
    exact h _ _ _ _

instance : IsTrans StepRow Precedes where
  trans a b c := by
    have h : ∀ (x y z : Int) (k m n : Nat), (x < y ∨ (x = y ∧ k ≤ m)) → (y < z ∨ (y = z ∧ m ≤ n)) →
        (x < z ∨ (x = z ∧ k ≤ n)) := by
      omega
    exact h _ _ _ _ _ _

/-- The attempt that a page of one item shows comes before all others of the step. -/
theorem first_listed {rows : List StepRow}
    (h : (store.exec e (.listSteps runId ns stepId 1) w).1 = .ok rows)
    (hs : (rows.take 1).getLast? = some s) :
    s ∈ w.db.steps.rows ∧ s.ofStep runId stepId = true ∧ s.ns = ns ∧
      ∀ s' ∈ w.db.steps.rows, s'.ofStep runId stepId = true → s'.ns = ns → Precedes s s' := by
  rw [store_exec_fst, Stmt.exec_ok h] at h
  obtain rfl := Except.ok.inj h
  generalize hall : w.db.steps.rows.filter (fun r => r.ofStep runId stepId && r.ns = ns) = all at hs
  have hmem : ∀ s', s' ∈ all ↔ s' ∈ w.db.steps.rows ∧ s'.ofStep runId stepId = true ∧ s'.ns = ns := by
    intro s'
    rw [← hall]
    simp
  have hsorted : (all.insertionSort Precedes).Pairwise Precedes := List.pairwise_insertionSort _ _
  have hhead : (all.insertionSort Precedes).head? = some s := by
    change (((all.insertionSort Precedes).take 2).take 1).getLast? = some s at hs
    revert hs
    cases all.insertionSort Precedes <;> simp
  obtain ⟨rest, hrest⟩ := List.head?_eq_some_iff.mp hhead
  rw [hrest] at hsorted
  have hin : ∀ s', s' ∈ all ↔ s' = s ∨ s' ∈ rest := by
    intro s'
    rw [← List.mem_insertionSort Precedes, hrest, List.mem_cons]
  obtain ⟨hrow, hstep, hns⟩ := (hmem s).mp ((hin s).mpr (.inl rfl))
  refine ⟨hrow, hstep, hns, fun s' hrow' hstep' hns' => ?_⟩
  rcases (hin s').mp ((hmem s').mpr ⟨hrow', hstep', hns'⟩) with rfl | hrest
  · exact .inr ⟨rfl, Nat.le_refl _⟩
  · exact (List.pairwise_cons.mp hsorted).1 s' hrest

end Listing

/-! ## The numbers of the attempts -/

section Numbers
variable {e : Env} {q : Stmt} {db : Db} {s : StepRow}

/-- An attempt that is inserted takes the next number of its step. -/
theorem number_of_inserted {step : NewStep} (hq : q.inserted = some step)
    (hchanged : (q.exec e db).2 ≠ db) (hs : s ∈ (q.exec e db).2.steps.rows)
    (hid : s.attemptId = step.attemptId) :
    s.runId = step.runId ∧ s.stepId = step.stepId ∧
      s.attemptNumber = db.nextAttempt step.runId step.stepId := by
  have hlatest : ∃ ns, (q.exec e db).2.latest step.runId step.stepId =
      some (step.row ns (db.nextAttempt step.runId step.stepId) e.began) := by
    rcases q.exec_cases e db with hx | hx
    · exact absurd (congrArg Prod.snd hx) hchanged
    rw [hx] at hchanged ⊢
    cases q with
    | supersede step' =>
        obtain rfl := Option.some.inj hq
        have hok : (supersede step' e db).1 = .ok true := by
          by_contra hmiss
          exact hchanged (supersede_miss hmiss)
        exact (supersede_next hok).2
    | insertStep step' =>
        obtain rfl := Option.some.inj hq
        have hok : (insertStep step' e db).1 = .ok () := by
          by_contra hmiss
          exact hchanged (insertStep_miss hmiss)
        exact (insertStep_next hok).2
    | _ => cases hq
  obtain ⟨ns, hlatest⟩ := hlatest
  have hsame : s = step.row ns (db.nextAttempt step.runId step.stepId) e.began :=
    (q.exec e db).2.steps.eq_of_clash hs (Db.mem_of_latest hlatest) (.inl hid)
  rw [hsame]
  exact ⟨rfl, rfl, rfl⟩

/-- The attempt is a version of one that was there. -/
def Same (s s₀ : StepRow) : Prop :=
  s.attemptId = s₀.attemptId ∧ s.runId = s₀.runId ∧ s.stepId = s₀.stepId ∧
    s.attemptNumber = s₀.attemptNumber

/-- An attempt that is there after a statement was there before, or it is new and has the next
number of its step. -/
theorem number_cases (hs : s ∈ (q.exec e db).2.steps.rows) :
    (∃ s₀ ∈ db.steps.rows, Same s s₀) ∨
      ∃ step, q.inserted = some step ∧ s.attemptId = step.attemptId ∧
        s.attemptNumber = db.nextAttempt s.runId s.stepId := by
  by_cases hchanged : (q.exec e db).2 = db
  · exact .inl ⟨s, hchanged ▸ hs, rfl, rfl, rfl, rfl⟩
  cases Stmt.exec_attempt hs with
  | kept hold => exact .inl ⟨s, hold, rfl, rfl, rfl, rfl⟩
  | @updated s₀ _ _ hold hq _ =>
      have hsame := Stmt.stepUpdate_keeps hq s₀
      exact .inl ⟨_, hold, hsame.attemptId, hsame.runId, hsame.stepId, hsame.attemptNumber⟩
  | inserted hq =>
      obtain ⟨-, -, hnumber⟩ := number_of_inserted hq hchanged hs rfl
      exact .inr ⟨_, hq, rfl, hnumber⟩

/-- The attempts of a step have different numbers. -/
def Distinct (db : Db) : Prop :=
  ∀ s ∈ db.steps.rows, ∀ s' ∈ db.steps.rows, s.runId = s'.runId → s.stepId = s'.stepId →
    s.attemptNumber = s'.attemptNumber → s.attemptId = s'.attemptId

theorem Distinct.exec (h : Distinct db) : Distinct (q.exec e db).2 := by
  intro s hs s' hs' hrun hstep hnumber
  rcases number_cases hs with ⟨s₀, hs₀, hid, hr, hst, hn⟩ | ⟨step, hq, hid, hn⟩
  · rcases number_cases hs' with ⟨s₁, hs₁, hid', hr', hst', hn'⟩ | ⟨step, -, -, hn'⟩
    · have hsame := h s₀ hs₀ s₁ hs₁ (by rw [← hr, ← hr', hrun]) (by rw [← hst, ← hst', hstep])
        (by rw [← hn, ← hn', hnumber])
      rw [hid, hid', hsame]
    · have hlt := Db.lt_nextAttempt hs₀
      rw [← hr, ← hst, ← hn, hrun, hstep, ← hn', hnumber] at hlt
      exact absurd hlt (Int.lt_irrefl _)
  · rcases number_cases hs' with ⟨s₁, hs₁, -, hr', hst', hn'⟩ | ⟨step', hq', hid', -⟩
    · have hlt := Db.lt_nextAttempt hs₁
      rw [← hr', ← hst', ← hn', ← hrun, ← hstep, ← hn, hnumber] at hlt
      exact absurd hlt (Int.lt_irrefl _)
    · obtain rfl := Option.some.inj (hq.symm.trans hq')
      rw [hid, hid']

theorem distinct_replay (now : Int) (trace : List Ran) :
    Distinct (store.replay (.empty now) trace).db := by
  induction trace with
  | nil => exact fun s hs => nomatch hs
  | cons ran trace ih => exact ih.exec

end Numbers

/-! ## The call -/

section Calls
variable {cfg : Config} {i : Nat} {runId : Uuid} {req : CompleteStepRequest}

/-- Every statement is allowed. -/
abbrev free : Condition Stmt Stmt.Result World Env := fun _ _ _ _ => True

/-- The statements of a call that read the step back, newest first. -/
def readings (i : Nat) (trace : List Ran) : List Ran :=
  trace.filter fun ran => ran.caller = i && readsBack ran.query

theorem readings_cons_of_ne {ran : Ran} {trace : List Ran}
    (h : ran.caller ≠ i ∨ readsBack ran.query = false) :
    readings i (ran :: trace) = readings i trace := by
  unfold readings
  refine List.filter_cons_of_neg ?_
  rcases h with h | h <;> simp [h]

theorem readings_cons {ran : Ran} {trace : List Ran} (hcaller : ran.caller = i)
    (hq : readsBack ran.query = true) : readings i (ran :: trace) = ran :: readings i trace := by
  unfold readings
  exact List.filter_cons_of_pos (by simp [hcaller, hq])

/-- The other callers make no statements of this one. -/
theorem readings_stable (P : List Ran → Prop) : Stable store free i fun m => P (readings i m.trace) := by
  intro j e q m hj h _ _
  rw [Moment.after_trace, readings_cons_of_ne (.inl hj)]
  exact h

/-- The call has read nothing back yet. -/
def Unread (i : Nat) (m : Now) : Prop := readings i m.trace = []

/-- The call has read the step back, and answers with the first attempt of the page. -/
def Read (cfg : Config) (i : Nat) (runId : Uuid) (stepId : String) (resp : Response) (m : Now) : Prop :=
  ∃ e ns rows s, readings i m.trace = [⟨i, e, .listSteps runId ns stepId 1, .ok rows⟩] ∧
    (rows.take 1).getLast? = some s ∧ resp = .completeStep (WorkerService.stepToProto cfg s)

theorem unread_after {e : Env} {q : Stmt} {m : Now} (hq : readsBack q = false) (hm : Unread i m) :
    Unread i (m.after store i e q) := by
  unfold Unread
  rw [Moment.after_trace, readings_cons_of_ne (.inr hq)]
  exact hm

/-- The statement does not read a step back. -/
def Elsewhere (q : Stmt) : Prop := readsBack q = false

/-- A part of the handler that does not read the step back. -/
theorem sat_unread {α : Type} {c : Rpc α} (hc : c.Uses Elsewhere) :
    Sat store free i (Unread i) c (fun _ => Unread i) (fun _ _ => True) :=
  (Sat.of_uses hc (readings_stable fun l => l = []) fun _ _ _ hq hm _ =>
    ⟨trivial, unread_after hq hm⟩).mono (fun _ h => h) (fun _ _ h => h) fun _ _ _ => trivial

theorem validate_uses : (WorkerService.validateWorkflowAction cfg runId).Uses Elsewhere := by
  have hns : (stmt (.getNamespace runId)).Uses Elsewhere := uses_stmt rfl
  have hstate : ∀ ns, (stmt (.checkWorkflowState runId ns)).Uses Elsewhere := fun _ => uses_stmt rfl
  unfold WorkerService.validateWorkflowAction
  refine hns.bind fun found => (uses_orFail _ _).bind fun ns => (hstate ns).bind fun check => ?_
  split
  next => trivial
  next =>
    split
    next => split <;> trivial
    next => trivial

theorem complete_elsewhere (max : Nat) (stepId : String) (output : Bytes) :
    (StepRepository.complete max runId stepId output).Uses Elsewhere := by
  have hsql : ∀ q : Stmt, Elsewhere q → (sql q).Uses Elsewhere := fun q h => uses_sql h
  refine (Prog.uses_ofExcept _).bind fun _ => Prog.Uses.bind ?_ fun kind => ?_
  · refine (hsql (.latestStepKind runId stepId) rfl).bind fun kind => ?_
    cases kind <;> trivial
  refine (hsql (.completeRunningStep runId stepId output) rfl).bind fun hit => ?_
  cases hit with
  | true => trivial
  | false =>
      refine (hsql (.latestStep runId stepId) rfl).bind fun found => ?_
      split
      next => trivial
      next => exact (hsql .newUuid rfl).bind fun _ => replaceLatest_uses ⟨rfl, rfl⟩

/-- `complete_step`, when it answers, has read the step back once. -/
theorem sat_completeStep (hid : cfg.parseUuid req.runId = some runId) :
    Sat store free i (Unread i) (WorkerService.completeStep cfg req)
      (fun resp m => Read cfg i runId req.stepId resp m) (fun _ _ => True) := by
  unfold WorkerService.completeStep
  simp only [Config.uuid, hid, orFail, Prog.ret_bind]
  refine Sat.bind (sat_unread validate_uses) fun ns => ?_
  refine Sat.bind (sat_unread (uses_call (complete_elsewhere _ _ _))) fun _ => ?_
  have hlist : Sat store free i (Unread i) (stmt (.listSteps runId ns req.stepId 1))
      (fun rows m => ∃ e, readings i m.trace = [⟨i, e, .listSteps runId ns req.stepId 1, .ok rows⟩])
      (fun _ _ => True) := by
    refine (sat_sql (fun rows => ?_) fun e m hm _ => ⟨trivial, fun rows hres => ⟨e, ?_⟩⟩).mapError
      fun _ _ _ => trivial
    · exact readings_stable fun l => ∃ e, l = [⟨i, e, .listSteps runId ns req.stepId 1, .ok rows⟩]
    · rw [Moment.after_trace, readings_cons (i := i) rfl rfl, hm, hres]
  refine Sat.bind hlist fun rows => ?_
  cases hs : (rows.take 1).getLast? with
  | none => exact fun _ _ => trivial
  | some s => exact fun m ⟨e, hreadings⟩ => ⟨e, ns, rows, s, hreadings, hs, rfl⟩

/-- What is known of a call that has returned. -/
def Returned (cfg : Config) (i : Nat) (req : Request) (resp : Response) (m : Now) : Prop :=
  ∀ r runId, req = .completeStep r → cfg.parseUuid r.runId = some runId →
    Read cfg i runId r.stepId resp m

theorem serves (cfg : Config) :
    Serves (service cfg) free (fun _ => True) (Returned cfg) (fun _ _ _ _ => True) := by
  intro i req _
  refine ⟨Unread i, readings_stable fun l => l = [], fun m _ hfresh => ?_, ?_⟩
  · exact List.filter_eq_nil_iff.mpr fun ran hran => by simp [hfresh ran hran]
  change Sat store free i (Unread i) (handle cfg req) (Returned cfg i req) _
  by_cases hform : ∃ r runId, req = .completeStep r ∧ cfg.parseUuid r.runId = some runId
  · obtain ⟨r, runId, rfl, hid⟩ := hform
    refine (sat_completeStep hid).mono (fun _ h => h) ?_ fun _ _ _ => trivial
    rintro resp m hm r' runId' heq hid'
    obtain rfl := Request.completeStep.inj heq
    obtain rfl := Option.some.inj (hid.symm.trans hid')
    exact hm
  · refine (Sat.of_invariant (K := fun _ => True) (fun _ _ _ => trivial)
      fun _ _ _ _ _ _ => trivial).mono (fun _ _ => trivial) ?_ fun _ _ _ => trivial
    exact fun _ _ _ r runId heq hid => (hform ⟨r, runId, heq, hid⟩).elim

/-! ## The result -/

variable {now : Int} {p : ServerState} {step : Step} {w : World} {ns stepId : String} {s : StepRow}

/-- The first attempt of the listing is shown as the latest one exactly if it is that. -/
theorem shows_iff {e : Env} {rows : List StepRow} (hdistinct : Distinct w.db)
    (h : (store.exec e (.listSteps runId ns stepId 1) w).1 = .ok rows)
    (hs : (rows.take 1).getLast? = some s) :
    Shows cfg w runId stepId (WorkerService.stepToProto cfg s) ↔ OldestIsLatest w runId ns stepId := by
  obtain ⟨hmem, hstep, hns, hfirst⟩ := first_listed h hs
  obtain ⟨hrun, hid⟩ : s.runId = runId ∧ s.stepId = stepId := by simpa [StepRow.ofStep] using hstep
  constructor
  · rintro ⟨latest, hlatest, hstatus, hproto⟩
    have hlatest' : w.db.latest runId stepId = some latest := hlatest
    obtain ⟨hrun', hid', -⟩ := isLatestOf_iff.mp (Db.isLatestOf_of_latest hlatest')
    have hnumber : s.attemptNumber = latest.attemptNumber := congrArg Step.attemptNumber hproto
    have hsame : s = latest := w.db.steps.eq_of_clash hmem (Db.mem_of_latest hlatest')
      (.inl (hdistinct s hmem latest (Db.mem_of_latest hlatest') (hrun.trans hrun'.symm)
        (hid.trans hid'.symm) hnumber))
    subst hsame
    refine ⟨s, hlatest, hstatus, hns, fun s' hmem' hstep' hns' hne => ?_⟩
    rcases hfirst s' hmem' hstep' hns' with hlt | ⟨heq, hle⟩
    · exact .inl hlt
    · refine .inr ⟨heq, Nat.lt_of_le_of_ne hle fun hsame => hne ?_⟩
      exact w.db.steps.eq_of_clash hmem' hmem (.inl hsame.symm)
  · rintro ⟨latest, hlatest, hstatus, hns', hbefore⟩
    refine ⟨latest, hlatest, hstatus, ?_⟩
    have hlatest' : w.db.latest runId stepId = some latest := hlatest
    obtain ⟨hrun', hid', -⟩ := isLatestOf_iff.mp (Db.isLatestOf_of_latest hlatest')
    have hstep' : latest.ofStep runId stepId = true := by simp [StepRow.ofStep, hrun', hid']
    have hle := hfirst latest (Db.mem_of_latest hlatest') hstep' hns'
    by_cases hsame : s = latest
    · rw [hsame]
    · have hlt := hbefore s hmem hstep hns hsame
      have hirrefl : ∀ (x y : Int) (m n : Nat), (x < y ∨ (x = y ∧ m ≤ n)) →
          ¬ (y < x ∨ (y = x ∧ n < m)) := by omega
      exact absurd hlt (hirrefl _ _ _ _ hle)

/-- In every run, a `CompleteStep` that answers reports the latest attempt of the step, completed,
exactly if that attempt is completed and the oldest one when the step is read back. -/
theorem reports_iff (h : Steps (service cfg) (.init (.empty now) []) p)
    (hreturned : p.returned i = some (.completeStep req, .completeStep step))
    (hid : cfg.parseUuid req.runId = some runId) :
    Reports cfg (.empty now) i p runId req.stepId step ↔
      ReadsOldest (.empty now) i p runId req.stepId := by
  obtain ⟨-, hsound⟩ := h.sound (serves cfg) (fun _ _ _ _ _ _ => trivial) trivial (sound_nil _)
  obtain ⟨e, ns, rows, s, hreadings, hs, hresp⟩ :=
    hsound.result (Pool.calls_of_returned hreturned) req runId rfl hid
  obtain rfl := Response.completeStep.inj hresp
  have honce : ∀ later ran earlier, p.trace = later ++ ran :: earlier → ran.caller = i →
      (∃ ns, ran.query = .listSteps runId ns req.stepId 1) →
        ran = ⟨i, e, .listSteps runId ns req.stepId 1, .ok rows⟩ := by
    rintro later ran earlier htrace hcaller ⟨ns', hq⟩
    have hmem : ran ∈ readings i p.trace := by
      refine List.mem_filter.mpr ⟨by rw [htrace]; simp, ?_⟩
      simp [hcaller, hq, readsBack]
    rw [hreadings] at hmem
    exact List.mem_singleton.mp hmem
  have hmoment : ∀ later earlier,
      p.trace = later ++ (⟨i, e, .listSteps runId ns req.stepId 1, .ok rows⟩ : Ran) :: earlier →
        (Shows cfg (store.replay (.empty now) earlier) runId req.stepId (WorkerService.stepToProto cfg s) ↔
          OldestIsLatest (store.replay (.empty now) earlier) runId ns req.stepId) := by
    intro later earlier htrace
    have hanswer := (h.recalled.2 later _ earlier htrace).2
    exact shows_iff (distinct_replay now earlier) hanswer.symm hs
  constructor
  · rintro ⟨later, ran, earlier, htrace, hcaller, hq, hshows⟩
    obtain rfl := honce later ran earlier htrace hcaller hq
    exact ⟨later, _, earlier, htrace, rfl, ns, rfl, (hmoment later earlier htrace).mp hshows⟩
  · rintro ⟨later, ran, earlier, htrace, hcaller, ns', hq, holdest⟩
    obtain rfl := honce later ran earlier htrace hcaller ⟨ns', hq⟩
    obtain ⟨-, rfl, -, -⟩ := Stmt.listSteps.inj hq
    exact ⟨later, _, earlier, htrace, rfl, ⟨ns, rfl⟩, (hmoment later earlier htrace).mpr holdest⟩

end Calls

/-! ## A step that has failed before -/

/-- A worker has begun a step of its run. -/
def begun : List (Action Env Request) :=
  [.start (.startWorkflow ⟨"job", "queue", "type", none, "ns", "", none⟩)] ++
    runs 0 6 (.quiet 0 1) ++
  [.start (.register ⟨"ns", "queue", ["type"], "host", 7, ""⟩)] ++ runs 1 1 (.quiet 0 2) ++
  [.start (.pollTask ⟨"queue", "2", "ns", ["type"]⟩ 0)] ++ runs 2 7 (.quiet 0 3) ++
  [.start (.beginStep ⟨"ns", "1", "step", 1, none, none⟩)] ++ runs 3 7 (.quiet 0 4)

/-- It completes the step. -/
def completed : ServerState :=
  fireAll (service .sample) (.init (.empty 0) [])
    (begun ++ [.start (.completeStep ⟨"ns", "1", "step", some [42]⟩)] ++ runs 4 5 (.quiet 1 5))

/-- What it is told: the attempt, with these columns. -/
def shown (status : StepStatus) (output : Payload) (error : Option ErrorDetail) : Step where
  stepId := "step"
  runId := "1"
  ns := "ns"
  kind := .function
  status := status
  attemptNumber := 1
  input := []
  output := output
  error := error
  createdAt := some 0
  startedAt := some 0
  finishedAt := some (seconds 1)

theorem reports_iff_first_attempt :
    Reports .sample (.empty 0) 4 completed 1 "step" (shown .completed [42] none) := by
  have h : Steps (service .sample) (.init (.empty 0) []) completed :=
    AllEnabled.steps (by decide +kernel)
  have hreturned : completed.returned 4 = some (.completeStep ⟨"ns", "1", "step", some [42]⟩,
      .completeStep (shown .completed [42] none)) := by decide +kernel
  have hne : completed.trace ≠ [] := by
    intro hnil
    have hlen : completed.trace.length ≠ 0 := by decide +kernel
    exact hlen (congrArg List.length hnil)
  refine (reports_iff h hreturned (by decide)).mpr
    ⟨[], completed.trace.head hne, completed.trace.tail, (List.cons_head_tail hne).symm, ?_, "ns", ?_, ?_⟩
  · decide +kernel +revert
  · decide +kernel +revert
  · have holdest : ∃ s ∈ (store.replay (.empty 0) completed.trace.tail).latest 1 "step",
        s.status = .completed ∧ s.ns = "ns" ∧
          ∀ s' ∈ (store.replay (.empty 0) completed.trace.tail).db.steps.rows,
            s'.ofStep 1 "step" = true → s'.ns = "ns" → s' ≠ s → Before s s' := by
      decide +kernel
    exact holdest

/-- It fails the step, begins it again and completes it. -/
def retried : ServerState :=
  fireAll (service .sample) (.init (.empty 0) [])
    (begun ++ [.start (.failStep ⟨"ns", "1", "step", none⟩)] ++ runs 4 4 (.quiet 1 5) ++
      [.start (.beginStep ⟨"ns", "1", "step", 1, none, none⟩)] ++ runs 5 6 (.quiet 2 6) ++
      [.start (.completeStep ⟨"ns", "1", "step", some [42]⟩)] ++ runs 6 5 (.quiet 3 7))

/-- The failed attempt is reported. -/
theorem first_attempt_is_reported : ¬ CompletionsAreReported .sample := by
  intro hall
  have h : Steps (service .sample) (.init (.empty 0) []) retried := AllEnabled.steps (by decide +kernel)
  have hreturned : retried.returned 6 = some (.completeStep ⟨"ns", "1", "step", some [42]⟩,
      .completeStep (shown .failed [] (some (errDetail .unspecified "" false 0 "" "")))) := by
    decide +kernel
  obtain ⟨-, -, -, -, -, -, s, -, hstatus, hstep⟩ := hall 0 _ h 6 _ _ 1 hreturned (by decide)
  have hshown : StepStatus.failed = s.status := congrArg Step.status hstep
  rw [hstatus] at hshown
  cases hshown

end StepReport

end Kagzi
