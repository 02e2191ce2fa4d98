import Kagzi.Server.Footprint
import Kagzi.Sdk.Builder
import Kagzi.Store.RunChange
import Kagzi.Store.StepChange

/-!
# The retry policy of a step

The SDK sends the durations of a `Retry` in whole milliseconds.  `begin_step` merges the
message with the policy of the workflow, in which a zero and an empty list stand for
"unset".  So a duration below one millisecond, and an empty list of errors, come out as
what the workflow's policy has, or the default.  The policy is stored as JSON, in which an
infinite coefficient is null.

The policy that is stored with a step keeps the values of the SDK exactly if none of its
fields is unset in this way, or the workflow's policy happens to fit (`Carried`).
-/

namespace Kagzi

open Atomic

namespace RetryIntervals

open Sdk

/-! ## What is claimed -/

/-- The number of milliseconds is the duration, give or take one millisecond. -/
def Approximates (ms : Int) (d : Duration) : Prop :=
  ms * 1000000 ≤ d.asNanos + 1000000 ∧ (d.asNanos : Int) ≤ ms * 1000000 + 1000000

/-- The policy in the column has the values of the SDK, and is valid. -/
structure Survives (r : Retry) (stored : StoredPolicy) : Prop where
  initial : Approximates stored.initialIntervalMs r.initialInterval
  max : Approximates stored.maximumIntervalMs r.maxInterval
  coefficient : stored.backoffCoefficient.map F64.finite = some r.backoffCoefficient
  errors : stored.nonRetryableErrors = r.nonRetryableErrors
  ordered : stored.initialIntervalMs ≤ stored.maximumIntervalMs

/-! ## When it holds -/

/-- No field of the SDK's retry counts as unset, or the policy `f` it is merged with has a
value that fits.  The milliseconds are those of an `i64`, and the coefficient is a number. -/
structure Carried (r : Retry) (f : RetryPolicy) : Prop where
  fits : r.maxInterval.asMillis < 2 ^ 63
  initial : r.initialInterval.asMillis = 0 → f.initialIntervalMs = 0 ∨ f.initialIntervalMs = 1
  max : r.maxInterval.asMillis = 0 → (f.maximumIntervalMs = 0 ∨ f.maximumIntervalMs = 1) ∧
    f.initialIntervalMs ≤ f.maximumIntervalMs
  coefficient : r.backoffCoefficient.isFinite = true
  errors : r.nonRetryableErrors = [] → f.nonRetryableErrors = []

/-- The intervals are numbers of an `i64`. -/
def InRange (f : RetryPolicy) : Prop := f.initialIntervalMs < 2 ^ 63 ∧ f.maximumIntervalMs < 2 ^ 63

/-! ## One interval -/

section Interval
variable {d : Duration} {ms : Int}

/-- The interval that the merge leaves. -/
def intervalOf (d : Duration) (ms : Int) : Int :=
  if asI64 d.asMillis ≠ 0 then asI64 d.asMillis else ms

theorem intervalOf_of_pos (h : 0 < d.asMillis) (hfits : d.asMillis < 2 ^ 63) :
    intervalOf d ms = d.asMillis := by
  have hsame : asI64 d.asMillis = d.asMillis := by
    unfold asI64
    omega
  have hne : (d.asMillis : Int) ≠ 0 := by omega
  simp only [intervalOf, hsame, hne, ne_eq, not_false_eq_true, if_true]

theorem intervalOf_of_zero (h : d.asMillis = 0) : intervalOf d ms = ms := by
  simp [intervalOf, h, asI64]

/-- A duration of a millisecond and more is cut to whole ones. -/
theorem approximates_asMillis (d : Duration) : Approximates d.asMillis d := by
  unfold Approximates Duration.asMillis
  omega

theorem approximates_of_zero (h : d.asMillis = 0) (hpos : d.asNanos ≠ 0) :
    Approximates ms d ↔ ms = 0 ∨ ms = 1 := by
  unfold Approximates
  unfold Duration.asMillis at h
  omega

/-- What does not fit into an `i64` is lost. -/
theorem fits_of_approximates (hms : ms < 2 ^ 63) (h : Approximates (intervalOf d ms) d) :
    d.asMillis < 2 ^ 63 := by
  unfold Approximates intervalOf asI64 at h
  unfold Duration.asMillis at h ⊢
  omega

end Interval

/-! ## The merge -/

section Merge
variable {r : Retry} {merged : ProtoPolicy} {fallback : Option RetryPolicy}

theorem of_validate (h : r.validate = .ok ()) :
    r.initialInterval.asNanos ≠ 0 ∧ r.maxInterval.asNanos ≠ 0 ∧
      r.backoffCoefficient.isBelow 1 = false ∧
      r.initialInterval.asNanos ≤ r.maxInterval.asNanos := by
  unfold Retry.validate at h
  split at h
  next => cases h
  next hinitial =>
    split at h
    next => cases h
    next hmax =>
      split at h
      next => cases h
      next hcoefficient =>
        split at h
        next => cases h
        next hle => exact ⟨hinitial, hmax, Bool.eq_false_iff.mpr hcoefficient, Nat.le_of_not_lt hle⟩

/-- What the merge makes of a valid retry. -/
theorem of_merge (hvalid : r.validate = .ok ())
    (h : mergeProtoPolicy (some r.toProto) fallback = some merged) :
    merged.initialIntervalMs =
        intervalOf r.initialInterval (fallback.getD .default).initialIntervalMs ∧
      merged.maximumIntervalMs =
        intervalOf r.maxInterval (fallback.getD .default).maximumIntervalMs ∧
      merged.backoffCoefficient = r.backoffCoefficient ∧
      (merged.nonRetryableErrors = r.nonRetryableErrors ↔
        (r.nonRetryableErrors = [] → (fallback.getD .default).nonRetryableErrors = [])) := by
  obtain ⟨-, -, hcoefficient, -⟩ := of_validate hvalid
  have hne : r.backoffCoefficient ≠ .finite 0 := fun hzero =>
    absurd hcoefficient (by rw [hzero]; decide)
  obtain rfl := Option.some.inj h
  refine ⟨rfl, rfl, if_pos hne, ?_⟩
  dsimp only [Retry.toProto, RetryPolicy.toProto, PolicyOf.withCoefficient]
  by_cases herrors : r.nonRetryableErrors = [] <;> simp [herrors]

/-- A retry survives exactly if the policy it is merged with allows it. -/
theorem survives_iff_carried (hvalid : r.validate = .ok ()) (hrange : InRange (fallback.getD .default))
    (h : mergeProtoPolicy (some r.toProto) fallback = some merged) :
    Survives r merged.toValue ↔ Carried r (fallback.getD .default) := by
  obtain ⟨hinitial, hmax, -, hle⟩ := of_validate hvalid
  obtain ⟨hmergedInitial, hmergedMax, hmergedCoefficient, hmergedErrors⟩ := of_merge hvalid h
  have hstoredInitial : merged.toValue.initialIntervalMs = _ := hmergedInitial
  have hstoredMax : merged.toValue.maximumIntervalMs = _ := hmergedMax
  have herrors : merged.toValue.nonRetryableErrors = r.nonRetryableErrors ↔ _ := hmergedErrors
  have hcoefficient : merged.toValue.backoffCoefficient.map F64.finite = some r.backoffCoefficient ↔
      r.backoffCoefficient.isFinite = true := by
    rw [← hmergedCoefficient]
    exact F64.map_toValue_iff
  have hmillis : r.initialInterval.asMillis ≤ r.maxInterval.asMillis := Nat.div_le_div_right hle
  constructor
  · intro hsurvives
    have hfits := fits_of_approximates hrange.2 (hstoredMax ▸ hsurvives.max)
    refine ⟨hfits, fun hzero => ?_, fun hzero => ?_, hcoefficient.mp hsurvives.coefficient,
      herrors.mp hsurvives.errors⟩
    · rw [intervalOf_of_zero hzero] at hstoredInitial
      exact (approximates_of_zero hzero hinitial).mp (hstoredInitial ▸ hsurvives.initial)
    · have hzero' : r.initialInterval.asMillis = 0 := by omega
      rw [intervalOf_of_zero hzero] at hstoredMax
      rw [intervalOf_of_zero hzero'] at hstoredInitial
      exact ⟨(approximates_of_zero hzero hmax).mp (hstoredMax ▸ hsurvives.max),
        hstoredInitial ▸ hstoredMax ▸ hsurvives.ordered⟩
  · intro hcarried
    have hfits := hcarried.fits
    have hfinite := hcoefficient.mpr hcarried.coefficient
    rcases Nat.eq_zero_or_pos r.initialInterval.asMillis with hzero | hpos
    · have hfit := hcarried.initial hzero
      rw [intervalOf_of_zero hzero] at hstoredInitial
      rcases Nat.eq_zero_or_pos r.maxInterval.asMillis with hzero' | hpos'
      · obtain ⟨hfit', hordered⟩ := hcarried.max hzero'
        rw [intervalOf_of_zero hzero'] at hstoredMax
        exact ⟨hstoredInitial ▸ (approximates_of_zero hzero hinitial).mpr hfit,
          hstoredMax ▸ (approximates_of_zero hzero' hmax).mpr hfit', hfinite,
          herrors.mpr hcarried.errors, hstoredInitial ▸ hstoredMax ▸ hordered⟩
      · rw [intervalOf_of_pos hpos' hfits] at hstoredMax
        refine ⟨hstoredInitial ▸ (approximates_of_zero hzero hinitial).mpr hfit,
          hstoredMax ▸ approximates_asMillis _, hfinite, herrors.mpr hcarried.errors, ?_⟩
        omega
    · rw [intervalOf_of_pos hpos (by omega)] at hstoredInitial
      rw [intervalOf_of_pos (by omega) hfits] at hstoredMax
      refine ⟨hstoredInitial ▸ approximates_asMillis _, hstoredMax ▸ approximates_asMillis _,
        hfinite, herrors.mpr hcarried.errors, ?_⟩
      omega

end Merge

/-! ## What `begin_step` stores -/

/-- The running attempts that the request number `n` inserts have the policy of the request,
merged with the one that is read of their run, and stored. -/
def Merges (n : Nat) (req : BeginStepRequest) : Condition Stmt Stmt.Result World Env := fun i _ q m =>
  i = n → ∀ step, q.inserted = some step → step.status = .running →
    ∀ row, m.store.run step.runId = some row →
      step.retryPolicy = (mergeProtoPolicy req.retryPolicy (readPolicy row.retryPolicy)).map
        ProtoPolicy.toValue

section Call
variable {cfg : Config} {n : Nat} {req : BeginStepRequest} {runId : Uuid} {fallback : Option RetryPolicy}

/-- The policy is read of the run, or the run is gone for good. -/
def Falls (runId : Uuid) (fallback : Option RetryPolicy) (m : Now) : Prop :=
  m.store.Keeps runId fun r => readPolicy r.retryPolicy = fallback

theorem falls_invariant (runId : Uuid) (fallback : Option RetryPolicy) :
    Invariant store (Falls runId fallback) := by
  intro i e q m hm ha
  refine World.Keeps.exec hm (fun old new hold hc => ?_) ha.2.1
  have hsame : new.retryPolicy = old.retryPolicy := by
    cases hc <;> rfl
  exact (congrArg readPolicy hsame).trans hold

theorem falls_stable (runId : Uuid) (fallback : Option RetryPolicy) :
    Stable store (Merges n req) n (Falls runId fallback) :=
  (falls_invariant runId fallback).restrict.stable

/-- The statement inserts no running attempt. -/
def Idle (q : Stmt) : Prop := ∀ step, q.inserted = some step → step.status ≠ .running

theorem idle_of_none {q : Stmt} (h : q.inserted = none) : Idle q := by
  intro step hstep
  rw [h] at hstep
  cases hstep

theorem merges_of_idle {i : Nat} {e : Env} {q : Stmt} {m : Now} (h : Idle q) : Merges n req i e q m :=
  fun _ step hstep hrunning => absurd hrunning (h step hstep)

/-- A part of the call that inserts no running attempt. -/
theorem sat_idle {ε α : Type} {p : Prog Stmt Stmt.Result ε α} {K : Now → Prop} (hK : Invariant store K)
    (h : p.Uses Idle) : Sat store (Merges n req) n K p (fun _ => K) fun _ _ => True := by
  refine (Sat.of_uses h hK.restrict.stable fun e q m hq hm ha => ?_).mono (fun _ h => h)
    (fun _ _ h => h) fun _ _ _ => trivial
  exact ⟨merges_of_idle hq, hK _ e q m hm ha⟩

/-- When the run has been found, it has some policy from then on. -/
theorem sat_validateWorkflowAction (runId : Uuid) :
    Sat store (Merges n req) n (fun _ => True) (WorkerService.validateWorkflowAction cfg runId)
      (fun _ m => ∃ fallback, Falls runId fallback m) fun _ _ => True := by
  have hfalls : Invariant store fun m => ∃ fallback, Falls runId fallback m := by
    rintro i e q m ⟨fallback, hm⟩ ha
    exact ⟨fallback, falls_invariant runId fallback i e q m hm ha⟩
  refine Sat.bind (P := fun found m => found ≠ none → ∃ fallback, Falls runId fallback m)
    (X := fun _ _ => True) ?_ fun found => ?_
  · refine Sat.mapError (sat_sql (fun found => Stable.imp fun _ => hfalls.restrict.stable)
      fun e m _ ha => ⟨merges_of_idle (idle_of_none rfl), fun found hres hsome => ?_⟩) fun _ _ _ => trivial
    have hrun : found = (m.store.db.run runId).map RunRow.ns := by
      rw [store_exec_fst] at hres
      rw [Stmt.exec_ok hres] at hres
      exact (Except.ok.inj hres).symm
    cases hrow : m.store.db.run runId with
    | none => simp [hrun, hrow] at hsome
    | some r => exact ⟨readPolicy r.retryPolicy, falls_invariant runId _ n e _ m (.inl ⟨r, hrow, rfl⟩) ha⟩
  · refine sat_orFail_bind (fun ns hns => ?_) fun _ _ => trivial
    have huses : (stmt (.checkWorkflowState runId ns)).Uses Idle := uses_stmt (idle_of_none rfl)
    refine Sat.bind ((sat_idle hfalls huses).start fun m hm => hm (by simp [hns])) fun check => ?_
    split
    next => exact fun _ _ => trivial
    next =>
      split
      next =>
        split
        next => exact fun _ _ => trivial
        next => exact fun _ hm => hm
      next => exact fun _ hm => hm

/-- The policy that is read is the one the run has. -/
theorem sat_getRetryPolicy :
    Sat store (Merges n req) n (fun m => ∃ fallback, Falls runId fallback m)
      (stmt (.getRetryPolicy runId)) (fun found => Falls runId found) fun _ _ => True := by
  refine Sat.mapError (sat_sql (fun found => falls_stable runId found)
    fun e m hm ha => ⟨merges_of_idle (idle_of_none rfl), fun found hres => ?_⟩) fun _ _ _ => trivial
  have hfound : found = readPolicy ((m.store.db.run runId).bind RunRow.retryPolicy) := by
    rw [store_exec_fst] at hres
    rw [Stmt.exec_ok hres] at hres
    exact (Except.ok.inj hres).symm
  refine falls_invariant runId found n e _ m ?_ ha
  obtain ⟨fallback, ⟨r, hr, -⟩ | hgone⟩ := hm
  · have hrow : m.store.db.run runId = some r := hr
    exact .inl ⟨r, hr, by rw [hfound, hrow, Option.bind_some]⟩
  · exact .inr hgone

/-- The attempt is inserted with the merged policy. -/
theorem sat_replaceLatest {step : NewStep} (hrun : step.runId = runId)
    (hpolicy : step.retryPolicy =
      (mergeProtoPolicy req.retryPolicy fallback).map ProtoPolicy.toValue) :
    Sat store (Merges n req) n (Falls runId fallback) (StepRepository.replaceLatest step)
      (fun _ => Falls runId fallback) fun _ _ => True := by
  have hmerges : ∀ (e : Env) (q : Stmt) (m : Now), q.inserted = some step → Falls runId fallback m →
      Merges n req n e q m := by
    intro e q m hq hm _ step' hstep _ row hrow
    obtain rfl := Option.some.inj (hq.symm.trans hstep)
    rw [hrun] at hrow
    rcases hm with ⟨r, hr, hfallback⟩ | ⟨hnone, -⟩
    · obtain rfl := Option.some.inj (hr.symm.trans hrow)
      rw [hpolicy, hfallback]
    · rw [hrow] at hnone
      cases hnone
  have hinserts : ∀ q : Stmt, q.inserted = some step → ∀ (e : Env) (m : Now), Falls runId fallback m →
      store.admits n e q m → Merges n req n e q m ∧ Falls runId fallback (m.after store n e q) :=
    fun q hq e m hm ha => ⟨hmerges e q m hq hm, falls_invariant runId fallback n e q m hm ha⟩
  refine Sat.bind (sat_sql (fun _ => falls_stable runId fallback) fun e m hm ha => ?_) fun hit => ?_
  · obtain ⟨hΓ, hfalls⟩ := hinserts (.supersede step) rfl e m hm ha
    exact ⟨hΓ, fun _ _ => hfalls⟩
  · cases hit with
    | true => exact fun _ hm => hm
    | false =>
        refine sat_sql (fun _ => falls_stable runId fallback) fun e m hm ha => ?_
        obtain ⟨hΓ, hfalls⟩ := hinserts (.insertStep step) rfl e m hm ha
        exact ⟨hΓ, fun _ _ => hfalls⟩

theorem sat_begin {params : BeginStepParams} (hrun : params.runId = runId)
    (hpolicy : params.retryPolicy = mergeProtoPolicy req.retryPolicy fallback) :
    Sat store (Merges n req) n (Falls runId fallback)
      (StepRepository.begin cfg.payloadMaxSizeBytes params)
      (fun _ => Falls runId fallback) fun _ _ => True := by
  have hidle : ∀ {q : Stmt}, q.inserted = none → (sql q).Uses Idle := fun h => uses_sql (idle_of_none h)
  refine Sat.ofExcept_bind (fun _ _ => ?_) fun _ _ _ => trivial
  refine Sat.bind (sat_idle (falls_invariant runId fallback) (hidle rfl)) fun found => ?_
  split
  next => exact fun _ hm => hm
  next =>
    refine Sat.bind (sat_idle (falls_invariant runId fallback) (hidle rfl)) fun attemptId => ?_
    exact Sat.bind (sat_replaceLatest hrun
      (congrArg (Option.map ProtoPolicy.toValue) hpolicy)) fun _ => fun _ hm => hm

/-- A completion inserts no running attempt. -/
theorem complete_idle (runId : Uuid) (stepId : String) (output : Bytes) :
    (StepRepository.complete cfg.payloadMaxSizeBytes runId stepId output).Uses Idle := by
  have hidle : ∀ {q : Stmt}, q.inserted = none → (sql q).Uses Idle := fun h => uses_sql (idle_of_none h)
  refine Prog.Uses.bind (Prog.uses_ofExcept _) fun _ => Prog.Uses.bind ?_ fun stepKind => ?_
  · exact Prog.Uses.bind (hidle rfl) fun kind => by cases kind <;> trivial
  · refine Prog.Uses.bind (hidle rfl) fun hit => ?_
    cases hit with
    | true => trivial
    | false =>
        refine Prog.Uses.bind (hidle rfl) fun found => ?_
        split
        next => trivial
        next =>
          refine Prog.Uses.bind (hidle rfl) fun attemptId => replaceLatest_uses ⟨?_, ?_⟩
          · rintro step hstep
            obtain rfl := Option.some.inj hstep
            exact nofun
          · rintro step hstep
            obtain rfl := Option.some.inj hstep
            exact nofun

theorem sat_beginStep :
    Sat store (Merges n req) n (fun _ => True) (WorkerService.beginStep cfg req) (fun _ _ => True)
      fun _ _ => True := by
  refine sat_uuid_bind (fun runId _ => ?_) fun _ _ _ => trivial
  refine Sat.bind (sat_validateWorkflowAction runId) fun _ => ?_
  refine Sat.bind sat_getRetryPolicy fun fallback => ?_
  refine Sat.ofExcept_bind (fun stepKind _ => ?_) fun _ _ _ => trivial
  refine Sat.bind (Sat.mapError (sat_begin rfl rfl) fun _ _ _ => trivial) fun result => ?_
  refine Sat.bind (sat_idle (falls_invariant runId fallback) ?_) fun _ => fun _ _ => trivial
  unfold WorkerService.finishSleep
  split
  next => exact uses_call (complete_idle runId _ _)
  next => trivial

end Call

/-- In a run every call of `begin_step` merges. -/
theorem merges_of_steps {cfg : Config} {w : World} {p : ServerState} {n : Nat} {req : BeginStepRequest}
    {c : Rpc Response} (h : Steps (server cfg fun _ => True) (.init w []) p)
    (hget : p.calls[n]? = some (.beginStep req, c)) :
    Steps ((server cfg fun _ => True).restrict (Merges n req)) (.init w []) p := by
  refine (h.sound_of (Γ := Merges n req) (I := fun _ => True) (P := fun _ _ _ _ => True)
    (X := fun _ _ _ _ => True) (fun i req' c' hget' _ => ?_) (fun _ _ _ _ _ _ => trivial) trivial
    (sound_nil w)).1
  by_cases hi : i = n
  · subst hi
    obtain ⟨rfl, -⟩ := Prod.mk.inj (Option.some.inj (hget.symm.trans hget'))
    exact ⟨fun _ => True, stable_true, fun _ _ _ => trivial, sat_beginStep⟩
  · refine ⟨fun _ => True, stable_true, fun _ _ _ => trivial, ?_⟩
    refine (Sat.of_uses (handle_uses cfg req') stable_true fun e q m _ _ _ => ?_).mono (fun _ h => h)
      (fun _ _ _ => trivial) fun _ _ _ => trivial
    exact ⟨fun heq => absurd heq hi, trivial⟩

/-! ## The attempts that are stored -/

/-- Between the two states a running attempt is inserted. -/
def Begins (s : StepRow) (before after : World) : Prop :=
  s ∈ after.db.steps.rows ∧ (∀ s' ∈ before.db.steps.rows, s'.attemptId ≠ s.attemptId) ∧
    s.status = .running

/-- An attempt of a run that is not there is not inserted. -/
theorem exec_inserted_of_none {e : Env} {q : Stmt} {db : Db} {step : NewStep}
    (hq : q.inserted = some step) (hnone : db.run step.runId = none) :
    (q.exec e db).2 = db := by
  have hrefused : ∀ db' : Db, db'.run step.runId = none → ∀ db'', db'.insertStep step e.began ≠ .ok db'' := by
    intro db' hnone' db'' h
    have hsome := (Db.insertStep_ok_iff.mp ⟨db'', h⟩).1
    rw [hnone'] at hsome
    cases hsome
  rcases q.exec_cases e db with hx | hx
  · rw [hx]
  · rw [hx]
    cases q with
    | supersede _ =>
        obtain rfl := Option.some.inj hq
        simp only [Stmt.sql, supersede]
        split
        next =>
          split
          next => rfl
          next steps _ =>
            split
            next db'' h => exact absurd h (hrefused { db with steps := steps } hnone db'')
            next => rfl
        next => rfl
    | insertStep _ =>
        obtain rfl := Option.some.inj hq
        simp only [Stmt.sql, insertStep]
        split
        next db'' h => exact absurd h (hrefused db hnone db'')
        next => rfl
    | _ => cases hq

/-- An attempt that a statement inserts is the one that it names, and its run is there. -/
theorem of_begins {e : Env} {q : Stmt} {w : World} {s : StepRow}
    (h : Begins s w (store.exec e q w).2) :
    ∃ step row, q.inserted = some step ∧ step.status = .running ∧ step.retryPolicy = s.retryPolicy ∧
      step.runId = s.runId ∧ w.run step.runId = some row := by
  obtain ⟨hmem, hnew, hrunning⟩ := h
  cases Stmt.exec_attempt hmem with
  | kept hold => exact absurd rfl (hnew s hold)
  | updated hold hupdate _ => exact absurd (Stmt.stepUpdate_keeps hupdate _).attemptId.symm (hnew _ hold)
  | @inserted step ns k hinserted =>
      cases hrun : w.db.run step.runId with
      | some row => exact ⟨step, row, hinserted, hrunning, rfl, rfl, hrun⟩
      | none =>
          rw [store_exec_db, exec_inserted_of_none hinserted hrun] at hmem
          exact absurd rfl (hnew _ hmem)

/-! ## The last statement of a run -/

section Last
variable {cfg : Config} {w : World} {p : ServerState} {s : StepRow}

theorem trace_eq (h : 0 < p.trace.length) : p.trace = [] ++ p.trace.get ⟨0, h⟩ :: p.trace.drop 1 := by
  rw [List.get_eq_getElem, List.getElem_cons_drop]
  rfl

theorem begins_last (hsteps : Steps (server cfg fun _ => True) (.init w []) p)
    (h : 0 < p.trace.length) (hs : s ∈ p.store.db.steps.rows) (hrunning : s.status = .running)
    (hnew : ∀ s' ∈ (store.replay w (p.trace.drop 1)).db.steps.rows, s'.attemptId ≠ s.attemptId) :
    Begins s (store.replay w (p.trace.drop 1))
      (store.replay w (p.trace.get ⟨0, h⟩ :: p.trace.drop 1)) := by
  have hstore : p.store = store.replay w p.trace := hsteps.recalled.1
  rw [trace_eq h, List.nil_append] at hstore
  exact ⟨hstore ▸ hs, hnew, hrunning⟩

end Last

/-! ## A run -/

/-- A worker takes a run without a policy and begins a step with this retry. -/
def beginStepWith (r : Retry) : List (Action Env Request) :=
  [.start (.startWorkflow ⟨"job", "queue", "type", none, "ns", "", none⟩)] ++ runs 0 6 (.quiet 0 1) ++
  [.start (.register ⟨"ns", "queue", ["type"], "", 0, ""⟩)] ++ runs 1 1 (.quiet 0 2) ++
  [.start (.pollTask ⟨"queue", "2", "ns", ["type"]⟩ 0)] ++ runs 2 7 (.quiet 1 3) ++
  [.start (.beginStep ⟨"ns", "1", "step", 1, none, some r.toProto⟩)] ++ runs 3 7 (.quiet 2 4)

/-- The state after it. -/
def begun (r : Retry) : ServerState :=
  fireAll (server .sample fun _ => True) (.init (.empty 0) []) (beginStepWith r)

/-- The attempt that is stored. -/
def attempt (policy : StoredPolicy) : StepRow where
  attemptId := 4
  runId := 1
  stepId := "step"
  ns := "ns"
  status := .running
  output := none
  error := none
  createdAt := some (seconds 2)
  startedAt := some (seconds 2)
  finishedAt := none
  retryPolicy := some policy
  attemptNumber := 1
  isLatest := true
  input := none
  stepKind := .function

/-! ## Main results -/

/-- The retry of the SDK survives in every attempt that `begin_step` stores for it. -/
def AllSurvive (cfg : Config) : Prop :=
  ∀ (w : World) (p : ServerState) (n : Nat) (req : BeginStepRequest) (c : Rpc Response) (r : Retry),
    Steps (server cfg fun _ => True) (.init w []) p → p.calls[n]? = some (.beginStep req, c) →
    req.retryPolicy = some r.toProto → r.validate = .ok () →
    ∀ (later : List Ran) (ran : Ran) (earlier : List Ran) (s : StepRow),
      p.trace = later ++ ran :: earlier → ran.caller = n →
      Begins s (store.replay w earlier) (store.replay w (ran :: earlier)) →
        ∃ stored, s.retryPolicy = some stored ∧ Survives r stored

/-- A valid retry of the SDK survives in an attempt that `begin_step` stores for it exactly if
the policy of the run, or the default, lets it. -/
theorem survives_iff (cfg : Config) (w : World) (p : ServerState) (n : Nat) (req : BeginStepRequest)
    (c : Rpc Response) (r : Retry) (h : Steps (server cfg fun _ => True) (.init w []) p)
    (hget : p.calls[n]? = some (.beginStep req, c)) (hreq : req.retryPolicy = some r.toProto)
    (hvalid : r.validate = .ok ()) (later : List Ran) (ran : Ran) (earlier : List Ran) (s : StepRow)
    (htrace : p.trace = later ++ ran :: earlier) (hcaller : ran.caller = n)
    (hs : Begins s (store.replay w earlier) (store.replay w (ran :: earlier))) :
    ∃ row stored, (store.replay w earlier).run s.runId = some row ∧ s.retryPolicy = some stored ∧
      (InRange ((readPolicy row.retryPolicy).getD .default) →
        (Survives r stored ↔ Carried r ((readPolicy row.retryPolicy).getD .default))) := by
  obtain ⟨-, hmerges⟩ := (merges_of_steps h hget).recalled_restrict htrace
  obtain ⟨step, row, hinserted, hrunning, hpolicy, hrunId, hrow⟩ := of_begins hs
  have hmerged := hmerges hcaller step hinserted hrunning row hrow
  rw [hpolicy, hreq] at hmerged
  obtain ⟨merged, h'⟩ : ∃ merged,
      mergeProtoPolicy (some r.toProto) (readPolicy row.retryPolicy) = some merged := ⟨_, rfl⟩
  rw [h', Option.map_some] at hmerged
  exact ⟨row, merged.toValue, hrunId ▸ hrow, hmerged, fun hrange =>
    survives_iff_carried hvalid hrange h'⟩

/-- The default retry survives. -/
theorem survives_iff_default : attempt ⟨3, 1000, some 2, 60000, []⟩ ∈ (begun .default).store.db.steps.rows ∧
    Survives .default ⟨3, 1000, some 2, 60000, []⟩ := by
  have hsteps : Steps (server .sample fun _ => True) (.init (.empty 0) []) (begun .default) :=
    AllEnabled.steps (by decide +kernel)
  have hlength : 0 < (begun .default).trace.length := by decide +kernel
  have hmem : attempt ⟨3, 1000, some 2, 60000, []⟩ ∈ (begun .default).store.db.steps.rows := by decide +kernel
  have hreturned : (begun .default).returned 3 = some (.beginStep ⟨"ns", "1", "step", 1, none,
      some Retry.default.toProto⟩, .beginStep "step" true []) := by decide +kernel
  have hcaller : ∀ h : 0 < (begun .default).trace.length,
      ((begun .default).trace.get ⟨0, h⟩).caller = 3 := by decide +kernel
  have hrun : ∀ row, (store.replay (.empty 0) ((begun .default).trace.drop 1)).run 1 = some row →
      row.retryPolicy = none := by
    intro row hrow
    have hnone : ((store.replay (.empty 0) ((begun .default).trace.drop 1)).run 1).map
        RunRow.retryPolicy = some none := by decide +kernel
    rw [hrow] at hnone
    exact Option.some.inj hnone
  have hbegins := begins_last hsteps hlength hmem rfl (by decide +kernel)
  obtain ⟨row, stored, hrow, hstored, hiff⟩ := survives_iff .sample _ _ 3 _ _ .default hsteps
    (Pool.calls_of_returned hreturned) rfl (by decide) [] _ _ _ (trace_eq hlength) (hcaller hlength)
    hbegins
  rw [hrun row hrow] at hiff
  obtain rfl := Option.some.inj hstored
  have hrange : InRange .default := ⟨by decide, by decide⟩
  exact ⟨hmem, (hiff hrange).mpr ⟨by decide, by decide, by decide, rfl, by decide⟩⟩

/-- Half a millisecond at first, and five milliseconds at most. -/
def quick : Retry :=
  { Retry.default with
    initialInterval := ⟨0, 500000, by decide⟩
    maxInterval := ⟨0, 5000000, by decide⟩ }

/-- The retry of half a millisecond is stored with a first interval of a second, which is
more than its maximum. -/
theorem interval_is_lost : ¬ AllSurvive .sample := by
  intro hall
  have hsteps : Steps (server .sample fun _ => True) (.init (.empty 0) []) (begun quick) :=
    AllEnabled.steps (by decide +kernel)
  have hlength : 0 < (begun quick).trace.length := by decide +kernel
  have hmem : attempt ⟨3, 1000, some 2, 5, []⟩ ∈ (begun quick).store.db.steps.rows := by decide +kernel
  have hreturned : (begun quick).returned 3 = some (.beginStep ⟨"ns", "1", "step", 1, none,
      some quick.toProto⟩, .beginStep "step" true []) := by decide +kernel
  have hcaller : ∀ h : 0 < (begun quick).trace.length,
      ((begun quick).trace.get ⟨0, h⟩).caller = 3 := by decide +kernel
  have hbegins := begins_last hsteps hlength hmem rfl (by decide +kernel)
  obtain ⟨stored, hstored, hsurvives⟩ := hall _ _ 3 _ _ quick hsteps
    (Pool.calls_of_returned hreturned) rfl (by decide) [] _ _ _ (trace_eq hlength) (hcaller hlength)
    hbegins
  obtain rfl := Option.some.inj hstored
  exact absurd hsurvives.ordered (by decide)

end RetryIntervals

end Kagzi
