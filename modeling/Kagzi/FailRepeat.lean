import Kagzi.StepFailure

/-!
# A failure is reported twice

A worker that has lost the answer to a `FailStep` sends it again.  When a retry is due,
the second call marks the failed attempt once more and finds the run no longer running.
When none is due, the first call fails the running attempt in place, and the second finds
no running attempt and inserts another one that has failed (`repeats_iff`).  `complete`
has a test for this and `fail` has not.
-/

namespace Kagzi

open Atomic Relational

namespace FailRepeat

open StepFailure (afterFailure RetryDue policyOf beforeMark rest marking)

/-- An attempt without the time at which it ended. -/
def timeless (s : StepRow) : StepRow := { s with finishedAt := none }

/-- `scheduled_retry`, in the answer of a call that has succeeded. -/
def scheduledRetry : Rpc Response → Option Bool
  | .ret (.failStep scheduled) => some scheduled
  | _ => none

/-- The call has an answer. -/
def Answered : Rpc Response → Prop
  | .call _ _ => False
  | _ => True

/-- A `FailStep` is answered, and its statements come without a fault. -/
structure Served (cfg : Config) (p : ServerState) (req : FailStepRequest) (es : List Env) : Prop where
  safe : ∀ e ∈ es, e.fault = false
  answered : ∃ c, (afterFailure cfg p req es).calls[p.calls.length]? = some (.failStep req, c) ∧
    Answered c

/-- The answer of a call, as far as it is about the retry. -/
def answerOf (p : ServerState) (i : Nat) : Option Bool := p.calls[i]?.bind fun c => scheduledRetry c.2

/-- The second of two equal calls changes nothing but times, and gives the answer of the
first. -/
structure Repeats (cfg : Config) (p : ServerState) (req : FailStepRequest) (es es' : List Env) :
    Prop where
  steps : (afterFailure cfg (afterFailure cfg p req es) req es').store.db.steps.rows.map timeless =
    (afterFailure cfg p req es).store.db.steps.rows.map timeless
  run : ∀ runId, cfg.parseUuid req.runId = some runId →
    ((afterFailure cfg (afterFailure cfg p req es) req es').store.run runId).map RunRow.status =
      ((afterFailure cfg p req es).store.run runId).map RunRow.status
  answer : answerOf (afterFailure cfg (afterFailure cfg p req es) req es')
      (afterFailure cfg p req es).calls.length =
    answerOf (afterFailure cfg p req es) p.calls.length

/-- A `FailStep` that is sent twice does what it does when it is sent once. -/
def EveryFailureRepeats (cfg : Config) : Prop :=
  ∀ (w : World) (p : ServerState), Steps (StepFailure.service cfg) (.init w []) p →
    ∀ (req : FailStepRequest) (es es' : List Env), Served cfg p req es →
      Served cfg (afterFailure cfg p req es) req es' → Repeats cfg p req es es'

/-! ## The condition -/

/-- The new time at which the run is available fits into the table. -/
def PutOff (w : World) (params : FailStepParams) (r : RunRow) (s : StepRow) (es : List Env) : Prop :=
  ∃ delayMs mark e later,
    beforeMark params (policyOf r s) s.attemptNumber es = some (delayMs, mark :: e :: later) ∧
      w.db.FitsInPlace (r.retry (asU64 delayMs) e.began)

/-- The fourth statement, without a retry, draws an id that no attempt has. -/
def NewAttempt (w : World) (runId : Uuid) (es : List Env) : Prop :=
  (w.run runId).isSome = true ∧ ∃ draw, es[3]? = some draw ∧
    ∀ s ∈ w.db.steps.rows, s.attemptId ≠ draw.fresh

/-- A retry is due, and when the first call cannot put the running run off, the second
cannot; or none is due, the latest attempt is not running, and neither call can insert
another one. -/
def Settled (w : World) (params : FailStepParams) (es es' : List Env) : Prop :=
  ∀ s, w.db.latest params.runId params.stepId = some s →
    (∃ r, RetryDue w params r s ∧
        (r.status = .running → PutOff w params r s es ∨ ¬ PutOff w params r s es')) ∨
      ((¬ ∃ r, RetryDue w params r s) ∧ s.status ≠ .running ∧
        ¬ NewAttempt w params.runId es ∧ ¬ NewAttempt w params.runId es')

/-! ## Attempts without their times -/

section Timeless
variable {w w' : World} {runId : Uuid} {stepId error : String} {s : StepRow} {e : Env}

/-- The latest attempts of tables that differ in times alone. -/
theorem latest_timeless (h : w'.db.steps.rows.map timeless = w.db.steps.rows.map timeless) :
    (w'.db.latest runId stepId).map timeless = (w.db.latest runId stepId).map timeless := by
  have hfind : ∀ rows : List StepRow, (rows.find? (StepRow.isLatestOf runId stepId)).map timeless =
      (rows.map timeless).find? (StepRow.isLatestOf runId stepId) := fun rows => by
    rw [List.find?_map]
    rfl
  exact (hfind _).trans ((congrArg (List.find? _) h).trans (hfind _).symm)

/-- An attempt that is marked twice. -/
theorem timeless_fail (now : Int) (h : s.status = .failed) (herror : s.error = some error) :
    timeless (s.fail error now) = timeless s := by
  simp [timeless, StepRow.fail, h, herror]

/-- The attempts after the mark of a step. -/
theorem rows_of_mark (db : Db) : (failLatestStep runId stepId error e db).2.steps.rows =
    db.steps.rows.map (amend (StepRow.isLatestOf runId stepId) (StepRow.fail error e.now)) := by
  obtain ⟨steps, hu⟩ := db.steps.update?_of_mild (p := StepRow.isLatestOf runId stepId)
    (f := StepRow.fail error e.now) fun r _ _ => ⟨trivial, fun _ h => h⟩
  simpa [failLatestStep, Db.commitSteps, hu] using Table.update?_rows hu

/-- A second mark changes times alone. -/
theorem rows_of_second_mark (hlatest : w.db.latest runId stepId = some s) (hs : s.status = .failed)
    (herror : s.error = some error) :
    (failLatestStep runId stepId error e w.db).2.steps.rows.map timeless =
      w.db.steps.rows.map timeless := by
  rw [rows_of_mark, List.map_map]
  refine List.map_congr_left fun row hrow => ?_
  cases hl : row.isLatestOf runId stepId with
  | true =>
      obtain rfl := Option.some.inj (hlatest.symm.trans (Db.latest_of_mem hrow hl))
      rw [Function.comp_apply, amend_of_true hl]
      exact timeless_fail _ hs herror
  | false => rw [Function.comp_apply, amend_of_false hl]

end Timeless

/-! ## One call -/

section Statements
variable {w : World} {es : List Env}

/-- A statement of a call that is answered, without a fault. -/
theorem alone_next {β : Type} {q : Stmt} {f : q.Ans → Store β} {g : β → Rpc Response}
    (hsafe : ∀ e ∈ es, e.fault = false)
    (h : Answered (store.alone es w (call (sql q >>= f) >>= g)).2) :
    ∃ e es', es = e :: es' ∧ ∃ w', w'.db = (q.sql e w.db).2 ∧
      ((∃ a, (q.sql e w.db).1 = .ok a ∧
          store.alone es w (call (sql q >>= f) >>= g) = store.alone es' w' (call (f a) >>= g)) ∨
        ∃ x, (q.sql e w.db).1 = .error x ∧
          store.alone es w (call (sql q >>= f) >>= g) = (w', .fail (mapStoreError x))) := by
  cases es with
  | nil => exact h.elim
  | cons e es' =>
      have hexec : q.exec e w.db = q.sql e w.db := Stmt.exec_of_safe (hsafe e (List.mem_cons_self ..))
      refine ⟨e, es', rfl, (store.exec e q w).2, congrArg Prod.snd hexec, ?_⟩
      have hfst : (store.exec e q w).1 = (q.sql e w.db).1 := congrArg Prod.fst hexec
      cases hres : (q.sql e w.db).1 with
      | ok a => exact .inl ⟨a, rfl, StepFailure.alone_ok (hfst.trans hres)⟩
      | error x => exact .inr ⟨x, rfl, StepFailure.alone_error (hfst.trans hres)⟩

end Statements

/-- What becomes of the run of a step that is marked, when the statement comes without a
fault. -/
inductive PutsOff (w : World) (r : RunRow) (delayMs : Nat) (e : Env) (stopped : World × Rpc Response) :
    Prop
  | idle : r.status ≠ .running → stopped.1.db.runs = w.db.runs →
      scheduledRetry stopped.2 = some true → PutsOff w r delayMs e stopped
  | fits : r.status = .running → w.db.FitsInPlace (r.retry delayMs e.began) →
      stopped.1.run r.runId = some (r.retry delayMs e.began) → scheduledRetry stopped.2 = some true →
      PutsOff w r delayMs e stopped
  | misfit : r.status = .running → ¬ w.db.FitsInPlace (r.retry delayMs e.began) →
      stopped.1.db.runs = w.db.runs → scheduledRetry stopped.2 = none → PutsOff w r delayMs e stopped

/-- It is about the runs alone. -/
theorem PutsOff.congr {w w' : World} {r : RunRow} {delayMs : Nat} {e : Env} {stopped : World × Rpc Response}
    (h : PutsOff w' r delayMs e stopped) (hruns : w'.db.runs = w.db.runs) : PutsOff w r delayMs e stopped := by
  have hfits : w'.db.FitsInPlace (r.retry delayMs e.began) ↔ w.db.FitsInPlace (r.retry delayMs e.began) := by
    simp only [Db.FitsInPlace, hruns]
  cases h with
  | idle hs hkept hanswer => exact .idle hs (hkept.trans hruns) hanswer
  | fits hs hfit hrun hanswer => exact .fits hs (hfits.mp hfit) hrun hanswer
  | misfit hs hfit hkept hanswer => exact .misfit hs (mt hfits.mpr hfit) (hkept.trans hruns) hanswer

/-- How a `FailStep` ends. -/
inductive Outcome (params : FailStepParams) (w : World) (es : List Env) (stopped : World × Rpc Response) :
    Prop
  | missing : w.db.latest params.runId params.stepId = none → stopped.1.db = w.db →
      scheduledRetry stopped.2 = none → Outcome params w es stopped
  | retry {r : RunRow} {s : StepRow} {delayMs : Int} {mark e : Env} {later : List Env} :
      RetryDue w params r s →
      beforeMark params (policyOf r s) s.attemptNumber es = some (delayMs, mark :: e :: later) →
      stopped.1.db.steps =
        (failLatestStep params.runId params.stepId params.error mark w.db).2.steps →
      PutsOff w r (asU64 delayMs) e stopped → Outcome params w es stopped
  | inPlace {s s' : StepRow} : (¬ ∃ r s, RetryDue w params r s) →
      w.db.latest params.runId params.stepId = some s → s.status = .running →
      stopped.1.db.latest params.runId params.stepId = some s' → s'.status = .failed →
      scheduledRetry stopped.2 = some false → Outcome params w es stopped
  | replaced {s s' : StepRow} : (¬ ∃ r s, RetryDue w params r s) →
      w.db.latest params.runId params.stepId = some s → s.status ≠ .running →
      NewAttempt w params.runId es → stopped.1.db.latest params.runId params.stepId = some s' →
      s'.status = .failed → s.attemptNumber < s'.attemptNumber →
      scheduledRetry stopped.2 = some false → Outcome params w es stopped
  | refused {s : StepRow} : (¬ ∃ r s, RetryDue w params r s) →
      w.db.latest params.runId params.stepId = some s → s.status ≠ .running →
      ¬ NewAttempt w params.runId es → stopped.1.db = w.db →
      scheduledRetry stopped.2 = none → Outcome params w es stopped

section Outcomes
variable {params : FailStepParams} {w : World} {es : List Env} {r : RunRow} {s : StepRow}

/-- The update for the retry, when it comes without a fault. -/
theorem putsOff {runId : Uuid} (hr : w.run runId = some r) (delayMs : Nat)
    (hsafe : ∀ e ∈ es, e.fault = false)
    (h : Answered (store.alone es w (rest runId ⟨true, some delayMs⟩)).2) :
    ∃ e later, es = e :: later ∧
      (store.alone es w (rest runId ⟨true, some delayMs⟩)).1.db.steps = w.db.steps ∧
      PutsOff w r delayMs e (store.alone es w (rest runId ⟨true, some delayMs⟩)) := by
  have hrest : rest runId ⟨true, some delayMs⟩ =
      (call (sql (.scheduleRetry runId delayMs) >>= fun _ => pure ()) >>= fun _ =>
        .ret (Response.failStep true)) := rfl
  obtain rfl := Db.runId_of_run hr
  rw [hrest] at h ⊢
  obtain ⟨e, later, rfl, w', hdb, hcases⟩ := alone_next hsafe h
  have hsteps : w'.db.steps = w.db.steps := by
    rw [hdb]
    exact Stmt.sql_sparesSteps rfl e w.db
  have hsql : (Stmt.scheduleRetry r.runId delayMs).sql e w.db =
    updateAt r.runId .running (RunRow.retry delayMs) e w.db := rfl
  rw [hsql] at hdb hcases
  refine ⟨e, later, rfl, ?_⟩
  by_cases hs : r.status = .running
  · have hfits := updateAt_ok_iff (f := RunRow.retry delayMs) (e := e) (fun _ _ => rfl) hr hs
    rcases hcases with ⟨hit, hres, halone⟩ | ⟨x, hres, halone⟩
    · rw [halone]
      have hrun := updateAt_ok (f := RunRow.retry delayMs) (fun _ _ => rfl) hres
      rw [show w.db.run r.runId = some r from hr, Option.map_some, if_pos hs, ← hdb] at hrun
      have hret : store.alone later w' (call (pure ()) >>= fun _ => .ret (Response.failStep true)) =
          (w', .ret (.failStep true)) := store.alone_ret later w' _
      rw [hret]
      exact ⟨hsteps, .fits hs (hfits.mp ⟨hit, hres⟩) hrun rfl⟩
    · rw [halone]
      refine ⟨hsteps, .misfit hs (fun hfit => ?_) (congrArg Db.runs (hdb.trans (Db.commitRuns_error hres))) rfl⟩
      obtain ⟨hit, hok⟩ := hfits.mpr hfit
      rw [hres] at hok
      cases hok
  · have hmiss : updateAt r.runId .running (RunRow.retry delayMs) e w.db =
        (.ok (w.db.runs.rows.any (RunRow.isAt r.runId .running)), w.db) := by
      refine Db.commitRuns_miss fun x hx => Bool.eq_false_iff.mpr fun hat => hs ?_
      obtain ⟨hid, hrunning⟩ := (isAt_iff r.runId).mp hat
      have hrow : w.db.run r.runId = some x := hid ▸ Db.run_of_mem hx
      rw [show w.db.run r.runId = some r from hr] at hrow
      obtain rfl := Option.some.inj hrow
      exact hrunning
    rcases hcases with ⟨hit, hres, halone⟩ | ⟨x, hres, -⟩
    · have hret : store.alone later w' (call (pure ()) >>= fun _ => .ret (Response.failStep true)) =
          (w', .ret (.failStep true)) := store.alone_ret later w' _
      rw [halone, hret]
      exact ⟨hsteps, .idle hs (by rw [hdb, hmiss]) rfl⟩
    · rw [hmiss] at hres
      cases hres

/-- The mark of the step and what follows, without a fault. -/
theorem marks {w₁ : World} {delayMs : Int} (hdue : RetryDue w params r s) (hdb : w₁.db = w.db)
    (hsafe : ∀ e ∈ es, e.fault = false) (h : Answered (store.alone es w₁ (marking params delayMs)).2) :
    ∃ mark e later, es = mark :: e :: later ∧
      (store.alone es w₁ (marking params delayMs)).1.db.steps =
        (failLatestStep params.runId params.stepId params.error mark w.db).2.steps ∧
      PutsOff w r (asU64 delayMs) e (store.alone es w₁ (marking params delayMs)) := by
  cases es with
  | nil => exact h.elim
  | cons mark es =>
      obtain ⟨w₂, hmark, hrest⟩ := @StepFailure.alone_mark params w₁ mark es delayMs
        (hsafe mark (List.mem_cons_self ..))
      rw [hrest] at h ⊢
      rw [hdb] at hmark
      have hruns : w₂.db.runs = w.db.runs := by
        rw [hmark]
        exact (Db.commitSteps_runs ..).runs
      obtain ⟨hrun, -, -⟩ := StepFailure.marked hdue hmark
      obtain ⟨e, later, rfl, hsteps, hputs⟩ := putsOff hrun (asU64 delayMs)
        (fun e he => hsafe e (List.mem_cons_of_mem _ he)) h
      exact ⟨mark, e, later, rfl, hsteps.trans (by rw [hmark]), hputs.congr hruns⟩

/-- A `FailStep` that is to schedule a retry. -/
theorem outcome_of_due (hdue : RetryDue w params r s) (hsafe : ∀ e ∈ es, e.fault = false)
    (h : Answered (store.alone es w (call (StepRepository.fail params) >>= rest params.runId)).2) :
    Outcome params w es (store.alone es w (call (StepRepository.fail params) >>= rest params.runId)) := by
  rw [StepRepository.fail] at h ⊢
  obtain ⟨first, es, rfl, w₁, hdb, hcases⟩ := alone_next hsafe h
  have hsql : (Stmt.getRetryInfo params.runId params.stepId).sql first w.db =
      (.ok (some ⟨s.attemptNumber, readPolicy (s.retryPolicy.or r.retryPolicy)⟩), w.db) := by
    show getRetryInfo params.runId params.stepId first w.db = _
    simp [getRetryInfo, show w.db.run params.runId = some r from hdue.run, hdue.step]
  have hshould : StepRepository.shouldRetry params ((readPolicy (s.retryPolicy.or r.retryPolicy)).getD .default)
      s.attemptNumber = true := hdue.due
  have hfirst : first.fault = false := hsafe first (List.mem_cons_self ..)
  have hsafe' : ∀ e ∈ es, e.fault = false := fun e he => hsafe e (List.mem_cons_of_mem _ he)
  rw [hsql] at hdb hcases
  rcases hcases with ⟨a, hres, halone⟩ | ⟨x, hres, -⟩
  · obtain rfl := Except.ok.inj hres
    rw [halone] at h ⊢
    simp only [hshould, if_true, StepRepository.retryDelayMs] at h ⊢
    cases hafter : params.retryAfterMs with
    | some delayMs =>
        simp only [hafter] at h ⊢
        obtain ⟨mark, e, later, rfl, hsteps, hputs⟩ := marks hdue hdb hsafe' h
        have hbefore : beforeMark params (policyOf r s) s.attemptNumber (first :: mark :: e :: later) =
            some (delayMs, mark :: e :: later) := by
          simp [beforeMark, hfirst, hafter]
        exact .retry hdue hbefore hsteps hputs
    | none =>
        simp only [hafter, Prog.bind_assoc] at h ⊢
        obtain ⟨draw, es, rfl, w₂, hdb₂, hcases⟩ := alone_next hsafe' h
        have hrandom : (Stmt.random).sql draw w₁.db = (.ok draw.rand, w₁.db) := rfl
        rw [hrandom] at hdb₂ hcases
        rcases hcases with ⟨a, hres, halone⟩ | ⟨x, hres, -⟩
        · obtain rfl := Except.ok.inj hres
          rw [halone] at h ⊢
          obtain ⟨mark, e, later, rfl, hsteps, hputs⟩ := marks hdue (hdb₂.trans hdb)
            (fun e he => hsafe' e (List.mem_cons_of_mem _ he)) h
          have hbefore : beforeMark params (policyOf r s) s.attemptNumber
              (first :: draw :: mark :: e :: later) = some ((policyOf r s).calculateDelayMs
                s.attemptNumber draw.rand, mark :: e :: later) := by
            simp [beforeMark, hfirst, hafter]
          exact .retry hdue hbefore hsteps hputs
        · cases hres
  · cases hres

/-- What an update of the running attempt hits. -/
theorem failRunningStep_ok (params : FailStepParams) (db : Db) (e : Env) : ∃ hit,
    (failRunningStep params.runId params.stepId params.error e db).1 = .ok hit ∧
      (hit = true ↔ ∃ s, db.latest params.runId params.stepId = some s ∧ s.status = .running) := by
  obtain ⟨steps, hu⟩ := db.steps.update?_of_mild (p := StepRow.isRunningOf params.runId params.stepId)
    (f := StepRow.fail params.error e.began) fun r _ _ => ⟨trivial, fun _ h => h⟩
  refine ⟨db.steps.rows.any (StepRow.isRunningOf params.runId params.stepId),
    by simp only [failRunningStep, Db.commitSteps, hu], List.any_eq_true.trans ⟨?_, ?_⟩⟩
  · rintro ⟨row, hmem, hp⟩
    obtain ⟨hl, hs⟩ := isRunningOf_iff.mp hp
    exact ⟨row, Db.latest_of_mem hmem hl, hs⟩
  · rintro ⟨row, hl, hs⟩
    exact ⟨row, Db.mem_of_latest hl, isRunningOf_iff.mpr ⟨Db.isLatestOf_of_latest hl, hs⟩⟩

/-- The insertion of a failed attempt over the latest one, from the draw of its id. -/
def replacing (params : FailStepParams) (kind : StepKind) : Store FailStepResult := do
  let attemptId ← sql .newUuid
  StepRepository.replaceLatest
    (StepRepository.resultRow params.runId params.stepId kind .failed none (some params.error) attemptId)
  pure ⟨false, none⟩

/-- The end of `fail` without a retry, for a step that is there. -/
def failing (params : FailStepParams) (kind : StepKind) : Store FailStepResult := do
  if ← sql (.failRunningStep params.runId params.stepId params.error) then pure ⟨false, none⟩
  else replacing params kind

/-- A replacement misses only where there is nothing to replace. -/
theorem supersede_ok_of_latest {step : NewStep} {e : Env} {db : Db} {hit : Bool}
    (hlatest : (db.latest step.runId step.stepId).isSome = true)
    (h : (supersede step e db).1 = .ok hit) : hit = true := by
  rw [supersede, if_pos hlatest] at h
  split at h
  next => cases h
  next =>
    split at h
    next => exact (Except.ok.inj h).symm
    next => cases h

/-- An attempt is inserted if its id is new. -/
theorem outcome_of_replacing {w₁ : World} {e₀ e₁ e₂ : Env} {kind : StepKind}
    (hnone : ¬ ∃ r s, RetryDue w params r s) (hdb : w₁.db = w.db)
    (hs : w.db.latest params.runId params.stepId = some s) (hidle : s.status ≠ .running)
    (hsafe : ∀ e ∈ es, e.fault = false)
    (h : Answered (store.alone es w₁ (call (replacing params kind) >>= rest params.runId)).2) :
    Outcome params w (e₀ :: e₁ :: e₂ :: es)
      (store.alone es w₁ (call (replacing params kind) >>= rest params.runId)) := by
  rw [replacing] at h ⊢
  obtain ⟨draw, es, rfl, w₂, hdb₂, hcases⟩ := alone_next hsafe h
  have hsafe' : ∀ e ∈ es, e.fault = false := fun e he => hsafe e (List.mem_cons_of_mem _ he)
  have hdraw : Stmt.newUuid.sql draw w₁.db = (.ok draw.fresh, w₁.db) := rfl
  rw [hdraw, hdb] at hdb₂ hcases
  rcases hcases with ⟨a, hres, halone⟩ | ⟨x, hres, -⟩
  swap
  · cases hres
  obtain rfl := Except.ok.inj hres
  rw [halone] at h ⊢
  rw [StepRepository.replaceLatest, Prog.bind_assoc] at h ⊢
  obtain ⟨e, es, rfl, w₃, hdb₃, hcases⟩ := alone_next hsafe' h
  generalize hrow : StepRepository.resultRow params.runId params.stepId kind .failed none
    (some params.error) draw.fresh = row at *
  have hid : row.runId = params.runId ∧ row.stepId = params.stepId ∧ row.attemptId = draw.fresh ∧
      row.status = .failed := by
    rw [← hrow]
    exact ⟨rfl, rfl, rfl, rfl⟩
  have hsql : (Stmt.supersede row).sql e w₂.db = supersede row e w.db := by
    rw [hdb₂]
    rfl
  rw [hsql] at hdb₃ hcases
  have hnew : (supersede row e w.db).1 = .ok true ↔ NewAttempt w params.runId
      (e₀ :: e₁ :: e₂ :: draw :: e :: es) := by
    rw [supersede_ok_iff, hid.1, hid.2.1, hid.2.2.1, hs]
    simp [NewAttempt, World.run]
  by_cases hok : (supersede row e w.db).1 = .ok true
  · rcases hcases with ⟨hit, hres, halone⟩ | ⟨x, hres, -⟩
    swap
    · rw [hres] at hok
      cases hok
    obtain rfl : hit = true := Except.ok.inj (hres.symm.trans hok)
    have hstopped : store.alone es w₃ (call (pure ⟨false, none⟩) >>= rest params.runId) =
        (w₃, .ret (.failStep false)) := store.alone_ret es w₃ _
    rw [halone]
    change Outcome params w _ (store.alone es w₃ (call (pure ⟨false, none⟩) >>= rest params.runId))
    rw [hstopped]
    obtain ⟨-, ns, hlatest⟩ := supersede_next hok
    rw [← hdb₃, hid.1, hid.2.1] at hlatest
    have hlt := Db.lt_nextAttempt (Db.mem_of_latest hs)
    obtain ⟨hrun, hstep, -⟩ := isLatestOf_iff.mp (Db.isLatestOf_of_latest hs)
    rw [hrun, hstep] at hlt
    exact .replaced hnone hs hidle (hnew.mp hok) hlatest hid.2.2.2 hlt rfl
  · have hkept : w₃.db = w.db := hdb₃.trans (supersede_miss hok)
    rcases hcases with ⟨hit, hres, halone⟩ | ⟨x, hres, halone⟩
    · have hsome : (w.db.latest row.runId row.stepId).isSome = true := by
        rw [hid.1, hid.2.1, hs]
        rfl
      obtain rfl := supersede_ok_of_latest hsome hres
      exact absurd hres hok
    · rw [halone]
      exact .refused hnone hs hidle (mt hnew.mpr hok) hkept rfl

/-- The failure of a step that is there. -/
theorem outcome_of_failing {w₁ : World} {e₀ e₁ : Env} {kind : StepKind}
    (hnone : ¬ ∃ r s, RetryDue w params r s) (hdb : w₁.db = w.db)
    (hs : w.db.latest params.runId params.stepId = some s) (hsafe : ∀ e ∈ es, e.fault = false)
    (h : Answered (store.alone es w₁ (call (failing params kind) >>= rest params.runId)).2) :
    Outcome params w (e₀ :: e₁ :: es)
      (store.alone es w₁ (call (failing params kind) >>= rest params.runId)) := by
  rw [failing] at h ⊢
  obtain ⟨e, es, rfl, w₂, hdb₂, hcases⟩ := alone_next hsafe h
  obtain ⟨hit, hhit, hiff⟩ := failRunningStep_ok params w.db e
  have hsql : (Stmt.failRunningStep params.runId params.stepId params.error).sql e w₁.db =
      failRunningStep params.runId params.stepId params.error e w.db := by
    rw [hdb]
    rfl
  rw [hsql] at hdb₂ hcases
  rw [hhit] at hcases
  rcases hcases with ⟨a, hres, halone⟩ | ⟨x, hres, -⟩
  swap
  · cases hres
  obtain rfl := Except.ok.inj hres
  rw [halone] at h ⊢
  rw [hs] at hiff
  cases hit with
  | true =>
      obtain ⟨s', heq, hrunning⟩ := hiff.mp rfl
      obtain rfl := Option.some.inj heq
      obtain ⟨output, row, hrow, hstatus, -⟩ := StepFailure.failRunningStep_hit hhit
      have hstopped : store.alone es w₂ (call (pure ⟨false, none⟩) >>= rest params.runId) =
          (w₂, .ret (.failStep false)) := store.alone_ret es w₂ _
      change Outcome params w _ (store.alone es w₂ (call (pure ⟨false, none⟩) >>= rest params.runId))
      rw [hstopped]
      exact .inPlace hnone hs hrunning (by rw [hdb₂]; exact hrow) hstatus rfl
  | false =>
      have hidle : s.status ≠ .running := fun hrunning => by
        cases hiff.mpr ⟨s, rfl, hrunning⟩
      have hmiss : (failRunningStep params.runId params.stepId params.error e w.db).1 ≠ .ok true := by
        rw [hhit]
        exact nofun
      exact outcome_of_replacing hnone (hdb₂.trans (StepFailure.failRunningStep_miss hmiss)) hs hidle
        (fun e he => hsafe e (List.mem_cons_of_mem _ he)) h

/-- The end of `fail` without a retry. -/
theorem outcome_of_failForGood {w₁ : World} {e₀ : Env} (hnone : ¬ ∃ r s, RetryDue w params r s)
    (hdb : w₁.db = w.db) (hsafe : ∀ e ∈ es, e.fault = false)
    (h : Answered (store.alone es w₁ (call (StepRepository.failForGood params) >>= rest params.runId)).2) :
    Outcome params w (e₀ :: es)
      (store.alone es w₁ (call (StepRepository.failForGood params) >>= rest params.runId)) := by
  rw [StepRepository.failForGood, StepRepository.latestStepKindStrict, Prog.bind_assoc] at h ⊢
  obtain ⟨e, es, rfl, w₂, hdb₂, hcases⟩ := alone_next hsafe h
  have hkind : (Stmt.latestStepKind params.runId params.stepId).sql e w₁.db =
      (.ok ((w₁.db.latest params.runId params.stepId).map fun r =>
        if r.stepKind = .sleep then .sleep else .function), w₁.db) := rfl
  rw [hkind, hdb] at hcases hdb₂
  rcases hcases with ⟨a, hres, halone⟩ | ⟨x, hres, -⟩
  swap
  · cases hres
  rw [halone] at h ⊢
  cases hs : w.db.latest params.runId params.stepId with
  | none =>
      rw [hs] at hres
      obtain rfl := Except.ok.inj hres
      change Outcome params w _ (store.alone es w₂ (.fail _))
      rw [store.alone_fail]
      exact .missing hs hdb₂ rfl
  | some s =>
      rw [hs] at hres
      obtain rfl := Except.ok.inj hres
      exact outcome_of_failing hnone hdb₂ hs (fun e he => hsafe e (List.mem_cons_of_mem _ he)) h

/-- A `FailStep` that is to schedule none. -/
theorem outcome_of_not_due (hnone : ¬ ∃ r s, RetryDue w params r s) (hsafe : ∀ e ∈ es, e.fault = false)
    (h : Answered (store.alone es w (call (StepRepository.fail params) >>= rest params.runId)).2) :
    Outcome params w es (store.alone es w (call (StepRepository.fail params) >>= rest params.runId)) := by
  rw [StepRepository.fail] at h ⊢
  obtain ⟨e, es, rfl, w₁, hdb, hcases⟩ := alone_next hsafe h
  have hsafe' : ∀ e ∈ es, e.fault = false := fun e he => hsafe e (List.mem_cons_of_mem _ he)
  have hsql : (Stmt.getRetryInfo params.runId params.stepId).sql e w.db =
      (.ok ((w.db.run params.runId).bind fun r => (w.db.latest params.runId params.stepId).map fun s =>
        ⟨s.attemptNumber, readPolicy (s.retryPolicy.or r.retryPolicy)⟩), w.db) := rfl
  rw [hsql] at hdb hcases
  rcases hcases with ⟨a, hres, halone⟩ | ⟨x, hres, -⟩
  swap
  · cases hres
  rw [halone] at h ⊢
  cases a with
  | none => exact outcome_of_failForGood hnone hdb hsafe' h
  | some info =>
      have hshould : StepRepository.shouldRetry params (info.retryPolicy.getD .default)
          info.attemptNumber ≠ true := by
        intro hdue
        simp only [Except.ok.injEq, Option.bind_eq_some_iff, Option.map_eq_some_iff] at hres
        obtain ⟨r, hr, s, hs, rfl⟩ := hres
        exact hnone ⟨r, s, hr, hs, hdue⟩
      simp only [hshould] at h ⊢
      exact outcome_of_failForGood hnone hdb hsafe' h

/-- Every `FailStep` that is answered ends in one of these ways. -/
theorem outcome (hsafe : ∀ e ∈ es, e.fault = false)
    (h : Answered (store.alone es w (call (StepRepository.fail params) >>= rest params.runId)).2) :
    Outcome params w es (store.alone es w (call (StepRepository.fail params) >>= rest params.runId)) := by
  by_cases hdue : ∃ r s, RetryDue w params r s
  · obtain ⟨r, s, hdue⟩ := hdue
    exact outcome_of_due hdue hsafe h
  · exact outcome_of_not_due hdue hsafe h

end Outcomes

/-! ## Two calls -/

section Twice
variable {params : FailStepParams} {w w₁ w₂ : World} {es es' : List Env} {c c' : Rpc Response}

/-- What `Repeats` says of where two calls have stopped. -/
structure Same (params : FailStepParams) (first second : World × Rpc Response) : Prop where
  steps : second.1.db.steps.rows.map timeless = first.1.db.steps.rows.map timeless
  run : (second.1.run params.runId).map RunRow.status = (first.1.run params.runId).map RunRow.status
  answer : scheduledRetry second.2 = scheduledRetry first.2

/-- The latest attempts before and after the second call. -/
theorem Same.latest {first second : World × Rpc Response} (h : Same params first second) :
    (second.1.db.latest params.runId params.stepId).map timeless =
      (first.1.db.latest params.runId params.stepId).map timeless :=
  latest_timeless h.steps

/-- A failed attempt is not failed for good a second time. -/
theorem not_same_of_failed {first second : World × Rpc Response} {s : StepRow}
    (hanswer : scheduledRetry first.2 = some false)
    (hlatest : first.1.db.latest params.runId params.stepId = some s) (hs : s.status = .failed)
    (h : Outcome params first.1 es second) : ¬ Same params first second := by
  intro hsame
  have hagain := hsame.answer.trans hanswer
  cases h with
  | missing hnone _ _ =>
      rw [hlatest] at hnone
      cases hnone
  | retry _ _ _ hputs =>
      cases hputs with
      | idle _ _ hput => rw [hagain] at hput; cases hput
      | fits _ _ _ hput => rw [hagain] at hput; cases hput
      | misfit _ _ _ hput => rw [hagain] at hput; cases hput
  | inPlace _ hl hrunning _ _ _ =>
      obtain rfl := Option.some.inj (hlatest.symm.trans hl)
      rw [hs] at hrunning
      cases hrunning
  | replaced _ hl _ _ hl' _ hlt _ =>
      have hlatest' := hsame.latest
      rw [hl, hl', Option.map_some, Option.map_some, Option.some.injEq] at hlatest'
      have hnumber : _ = _ := congrArg StepRow.attemptNumber hlatest'
      exact absurd hnumber (Int.ne_of_gt hlt)
  | refused _ _ _ _ _ hnone => rw [hagain] at hnone; cases hnone

/-- The attempt and the run after a call that is to schedule a retry: a retry is due
again. -/
theorem due_again {r r₁ : RunRow} {s : StepRow} {mark : Env} {w₁ : World} (hdue : RetryDue w params r s)
    (hsteps : w₁.db.steps =
      (failLatestStep params.runId params.stepId params.error mark w.db).2.steps)
    (hr : w₁.run params.runId = some r₁) (hpolicy : r₁.retryPolicy = r.retryPolicy) :
    RetryDue w₁ params r₁ (s.fail params.error mark.now) := by
  refine ⟨hr, ?_, ?_⟩
  · rw [Db.latest_congr hsteps]
    exact StepFailure.latest_of_mark hdue.step
  · have hsame : policyOf r₁ (s.fail params.error mark.now) = policyOf r s := by
      simp only [policyOf, hpolicy, StepRow.fail]
    rw [hsame]
    exact hdue.due

/-- A second call after one that is to schedule a retry marks the attempt again. -/
theorem retry_again {r₁ : RunRow} {s₁ : StepRow} {second : World × Rpc Response}
    (hdue : RetryDue w₁ params r₁ s₁) (h : Outcome params w₁ es' second) :
    ∃ delayMs mark e later,
      beforeMark params (policyOf r₁ s₁) s₁.attemptNumber es' = some (delayMs, mark :: e :: later) ∧
        second.1.db.steps =
          (failLatestStep params.runId params.stepId params.error mark w₁.db).2.steps ∧
        PutsOff w₁ r₁ (asU64 delayMs) e second := by
  cases h with
  | missing hnone _ _ =>
      rw [hdue.step] at hnone
      cases hnone
  | retry hdue' hbefore hsteps hputs =>
      obtain rfl := Option.some.inj (hdue.run.symm.trans hdue'.run)
      obtain rfl := Option.some.inj (hdue.step.symm.trans hdue'.step)
      exact ⟨_, _, _, _, hbefore, hsteps, hputs⟩
  | inPlace hno _ _ _ _ _ => exact absurd ⟨r₁, s₁, hdue⟩ hno
  | replaced hno _ _ _ _ _ _ _ => exact absurd ⟨r₁, s₁, hdue⟩ hno
  | refused hno _ _ _ _ _ => exact absurd ⟨r₁, s₁, hdue⟩ hno

/-- The condition, when a retry is due. -/
theorem settled_iff_of_due {r : RunRow} {s : StepRow} (hdue : RetryDue w params r s) :
    Settled w params es es' ↔
      (r.status = .running → PutOff w params r s es ∨ ¬ PutOff w params r s es') := by
  constructor
  · intro h
    rcases h s hdue.step with ⟨r', hdue', hput⟩ | ⟨hno, -⟩
    · obtain rfl := Option.some.inj (hdue.run.symm.trans hdue'.run)
      exact hput
    · exact absurd ⟨r, hdue⟩ hno
  · intro h s' hs'
    obtain rfl := Option.some.inj (hdue.step.symm.trans hs')
    exact .inl ⟨r, hdue, h⟩

/-- The new time fits exactly if it fits with the delay and the clock of the call. -/
theorem putOff_iff {r : RunRow} {s : StepRow} {delayMs : Int} {mark e : Env} {later : List Env}
    (hbefore : beforeMark params (policyOf r s) s.attemptNumber es =
      some (delayMs, mark :: e :: later)) :
    PutOff w params r s es ↔ w.db.FitsInPlace (r.retry (asU64 delayMs) e.began) := by
  constructor
  · rintro ⟨delayMs', mark', e', later', hbefore', hfits⟩
    rw [hbefore] at hbefore'
    obtain ⟨rfl, rfl, rfl, rfl⟩ : delayMs = delayMs' ∧ mark = mark' ∧ e = e' ∧ later = later' := by
      simpa using hbefore'
    exact hfits
  · exact fun hfits => ⟨delayMs, mark, e, later, hbefore, hfits⟩

/-- The second call, after one that is to schedule a retry. -/
theorem same_iff_of_retry {first second : World × Rpc Response} {r : RunRow} {s : StepRow}
    {delayMs : Int} {mark e : Env} {later : List Env} (hdue : RetryDue w params r s)
    (hbefore : beforeMark params (policyOf r s) s.attemptNumber es =
      some (delayMs, mark :: e :: later))
    (hsteps : first.1.db.steps =
      (failLatestStep params.runId params.stepId params.error mark w.db).2.steps)
    (hputs : PutsOff w r (asU64 delayMs) e first) (h : Outcome params first.1 es' second) :
    Same params first second ↔ Settled w params es es' := by
  rw [settled_iff_of_due hdue]
  have hid := Db.runId_of_run hdue.run
  -- the second mark changes times alone, whatever the run is
  have hmarks : ∀ {r₁}, RetryDue first.1 params r₁ (s.fail params.error mark.now) →
      ∃ delayMs' mark' e' later',
        beforeMark params (policyOf r₁ (s.fail params.error mark.now)) s.attemptNumber es' =
            some (delayMs', mark' :: e' :: later') ∧
          second.1.db.steps.rows.map timeless = first.1.db.steps.rows.map timeless ∧
          PutsOff first.1 r₁ (asU64 delayMs') e' second := fun hagain => by
    obtain ⟨delayMs', mark', e', later', hbefore', hsteps', hputs'⟩ := retry_again hagain h
    refine ⟨delayMs', mark', e', later', hbefore', ?_, hputs'⟩
    rw [hsteps']
    exact rows_of_second_mark hagain.step rfl rfl
  cases hputs with
  | idle hs hruns hanswer =>
      have hrun : first.1.run params.runId = some r := (Db.run_congr hruns _).trans hdue.run
      obtain ⟨_, _, _, _, -, hsame, hputs'⟩ := hmarks (due_again hdue hsteps hrun rfl)
      refine ⟨fun _ hs' => absurd hs' hs, fun _ => ?_⟩
      cases hputs' with
      | idle _ hruns' hanswer' =>
          exact ⟨hsame, congrArg _ (Db.run_congr hruns' _), hanswer'.trans hanswer.symm⟩
      | fits hs' _ _ _ => exact absurd hs' hs
      | misfit hs' _ _ _ => exact absurd hs' hs
  | fits hs hfits hrun hanswer =>
      rw [hid] at hrun
      obtain ⟨_, _, _, _, -, hsame, hputs'⟩ := hmarks (due_again hdue hsteps hrun rfl)
      refine ⟨fun _ _ => .inl ((putOff_iff hbefore).mpr hfits), fun _ => ?_⟩
      cases hputs' with
      | idle _ hruns' hanswer' =>
          exact ⟨hsame, congrArg _ (Db.run_congr hruns' _), hanswer'.trans hanswer.symm⟩
      | fits hs' _ _ _ => cases hs'
      | misfit hs' _ _ _ => cases hs'
  | misfit hs hfits hruns hanswer =>
      have hrun : first.1.run params.runId = some r := (Db.run_congr hruns _).trans hdue.run
      obtain ⟨delayMs', mark', e', later', hbefore', hsame, hputs'⟩ :=
        hmarks (due_again hdue hsteps hrun rfl)
      have hput : PutOff w params r s es' ↔ w.db.FitsInPlace (r.retry (asU64 delayMs') e'.began) :=
        putOff_iff hbefore'
      have hnot : ¬ PutOff w params r s es := mt (putOff_iff hbefore).mp hfits
      have hkept : ∀ row, first.1.db.FitsInPlace row ↔ w.db.FitsInPlace row := fun row => by
        simp only [Db.FitsInPlace, hruns]
      cases hputs' with
      | idle hs' _ _ => exact absurd hs hs'
      | fits _ hfits' _ hanswer' =>
          constructor
          · intro hboth
            rw [← hboth.answer, hanswer'] at hanswer
            cases hanswer
          · intro hif
            exact absurd (hput.mpr ((hkept _).mp hfits')) ((hif hs).resolve_left hnot)
      | misfit _ hfits' hruns' hanswer' =>
          refine ⟨fun _ _ => .inr fun hput' => hfits' ((hkept _).mpr (hput.mp hput')), fun _ => ?_⟩
          exact ⟨hsame, congrArg _ (Db.run_congr hruns' _), hanswer'.trans hanswer.symm⟩

/-- Of two calls the second does what the first did exactly under the condition. -/
theorem same_iff {first second : World × Rpc Response} (h : Outcome params w es first)
    (h' : Outcome params first.1 es' second) :
    Same params first second ↔ Settled w params es es' := by
  cases h with
  | missing hnone hdb hanswer =>
      have hsettled : Settled w params es es' := fun s hs => by
        rw [hnone] at hs
        cases hs
      refine iff_of_true ?_ hsettled
      rw [← hdb] at hnone
      cases h' with
      | missing _ hdb' hanswer' =>
          refine ⟨by rw [hdb'], ?_, hanswer'.trans hanswer.symm⟩
          simp only [World.run, hdb']
      | retry hdue _ _ _ => rw [hdue.step] at hnone; cases hnone
      | inPlace _ hs _ _ _ _ => rw [hnone] at hs; cases hs
      | replaced _ hs _ _ _ _ _ _ => rw [hnone] at hs; cases hs
      | refused _ hs _ _ _ _ => rw [hnone] at hs; cases hs
  | retry hdue hbefore hsteps hputs => exact same_iff_of_retry hdue hbefore hsteps hputs h'
  | inPlace hno hs hrunning hs' hfailed hanswer =>
      refine ⟨fun hsame => absurd hsame (not_same_of_failed hanswer hs' hfailed h'), fun hsettled => ?_⟩
      rcases hsettled _ hs with ⟨r, hdue, -⟩ | ⟨-, hidle, -⟩
      · exact absurd ⟨r, _, hdue⟩ hno
      · exact absurd hrunning hidle
  | replaced hno hs _ hnew hs' hfailed _ hanswer =>
      refine ⟨fun hsame => absurd hsame (not_same_of_failed hanswer hs' hfailed h'), fun hsettled => ?_⟩
      rcases hsettled _ hs with ⟨r, hdue, -⟩ | ⟨-, -, hnone, -⟩
      · exact absurd ⟨r, _, hdue⟩ hno
      · exact absurd hnew hnone
  | refused hno hs hidle hnew hdb hanswer =>
      have hrun : first.1.run params.runId = w.run params.runId := congrArg (Db.run · _) hdb
      have hdue : ∀ {r s}, RetryDue first.1 params r s → RetryDue w params r s := fun hdue =>
        ⟨hrun.symm.trans hdue.run, by rw [← hdb]; exact hdue.step, hdue.due⟩
      have hnew' : NewAttempt first.1 params.runId es' ↔ NewAttempt w params.runId es' := by
        simp only [NewAttempt, hrun, hdb]
      cases h' with
      | missing hnone _ _ => rw [hdb, hs] at hnone; cases hnone
      | retry hdue' _ _ _ => exact absurd ⟨_, _, hdue hdue'⟩ hno
      | inPlace _ hs' hrunning _ _ _ =>
          rw [hdb, hs] at hs'
          obtain rfl := Option.some.inj hs'
          exact absurd hrunning hidle
      | replaced _ hs' _ hgot _ _ _ hanswer' =>
          refine iff_of_false (fun hsame => ?_) fun hsettled => ?_
          · rw [← hsame.answer, hanswer'] at hanswer
            cases hanswer
          · rcases hsettled _ hs with ⟨r, hdue', -⟩ | ⟨-, -, -, hnone⟩
            · exact hno ⟨r, _, hdue'⟩
            · exact hnone (hnew'.mp hgot)
      | refused _ _ _ hnone hdb' hanswer' =>
          refine iff_of_true ⟨by rw [hdb'], ?_, hanswer'.trans hanswer.symm⟩ fun s' hs' => ?_
          · simp only [World.run, hdb']
          · rw [hs] at hs'
            obtain rfl := Option.some.inj hs'
            exact .inr ⟨fun h => h.elim fun r hdue' => hno ⟨r, _, hdue'⟩, hidle, hnew, mt hnew'.mpr hnone⟩

end Twice

/-! ## The result -/

section Result
variable {cfg : Config} {p : ServerState} {req : FailStepRequest} {es es' : List Env}

/-- Where a call stops is where its program does. -/
theorem stopped (cfg : Config) (p : ServerState) (req : FailStepRequest) (es : List Env) :
    (afterFailure cfg p req es).store = (store.alone es p.store (handle cfg (.failStep req))).1 ∧
      (afterFailure cfg p req es).calls[p.calls.length]? =
        some (.failStep req, (store.alone es p.store (handle cfg (.failStep req))).2) :=
  fireAll_arrival_alone (StepFailure.service cfg) p (.failStep req) es

/-- The program of a call that is answered has stopped. -/
theorem Served.stopped (h : Served cfg p req es) :
    Answered (store.alone es p.store (handle cfg (.failStep req))).2 := by
  obtain ⟨c, hc, hanswered⟩ := h.answered
  rw [(FailRepeat.stopped cfg p req es).2] at hc
  obtain rfl := (Prod.mk.inj (Option.some.inj hc)).2
  exact hanswered

/-- The call is compared with where its program stops. -/
theorem repeats_iff_same {runId : Uuid} (hid : cfg.parseUuid req.runId = some runId) :
    Repeats cfg p req es es' ↔ Same (WorkerService.failStepParams runId req)
      (store.alone es p.store (handle cfg (.failStep req)))
      (store.alone es' (store.alone es p.store (handle cfg (.failStep req))).1
        (handle cfg (.failStep req))) := by
  obtain ⟨hstore, hcall⟩ := FailRepeat.stopped cfg p req es
  obtain ⟨hstore', hcall'⟩ := FailRepeat.stopped cfg (afterFailure cfg p req es) req es'
  rw [hstore] at hstore' hcall'
  constructor
  · rintro ⟨hsteps, hrun, hanswer⟩
    rw [hstore, hstore'] at hsteps hrun
    rw [answerOf, answerOf, hcall, hcall'] at hanswer
    exact ⟨hsteps, hrun runId hid, hanswer⟩
  · rintro ⟨hsteps, hrun, hanswer⟩
    refine ⟨?_, fun runId' hid' => ?_, ?_⟩
    · rw [hstore, hstore']
      exact hsteps
    · obtain rfl := Option.some.inj (hid.symm.trans hid')
      rw [hstore, hstore']
      exact hrun
    · rw [answerOf, answerOf, hcall, hcall']
      exact hanswer

/-- A request that is refused is refused again. -/
theorem repeats_of_refused {x : Status} (h : handle cfg (.failStep req) = .fail x) :
    Repeats cfg p req es es' := by
  obtain ⟨hstore, hcall⟩ := FailRepeat.stopped cfg p req es
  obtain ⟨hstore', hcall'⟩ := FailRepeat.stopped cfg (afterFailure cfg p req es) req es'
  rw [h, store.alone_fail] at hstore hcall hstore' hcall'
  refine ⟨by rw [hstore'], fun _ _ => by rw [hstore'], ?_⟩
  rw [answerOf, answerOf, hcall, hcall']

/-- In every state, a `FailStep` that is sent twice does what it does when it is sent
once, exactly if it is refused or meets the condition. -/
theorem repeats_iff (h : Served cfg p req es) (h' : Served cfg (afterFailure cfg p req es) req es') :
    Repeats cfg p req es es' ↔ ∀ runId, cfg.parseUuid req.runId = some runId → req.stepId ≠ "" →
      Settled p.store (WorkerService.failStepParams runId req) es es' := by
  cases hid : cfg.parseUuid req.runId with
  | none =>
      have hrefused : ∃ x, handle cfg (.failStep req) = .fail x := by
        simp only [handle, WorkerService.failStep, Config.uuid, hid, orFail, Prog.fail_bind]
        exact ⟨_, rfl⟩
      obtain ⟨x, hrefused⟩ := hrefused
      exact iff_of_true (repeats_of_refused hrefused) fun _ hnone => by cases hnone
  | some runId =>
      by_cases hstep : req.stepId = ""
      · have hrefused : handle cfg (.failStep req) =
            .fail (invalidArgumentError ("step_id" ++ " is required")) := by
          simp only [handle, WorkerService.failStep, Config.uuid, hid, orFail, requireNonEmpty,
            if_pos hstep, Prog.ret_bind, Prog.fail_bind]
        exact iff_of_true (repeats_of_refused hrefused) fun _ _ hne => absurd hstep hne
      · have hprog := StepFailure.handle_failStep hid hstep
        have hanswered := h.stopped
        have hanswered' := h'.stopped
        rw [(FailRepeat.stopped cfg p req es).1, hprog] at hanswered'
        rw [hprog] at hanswered
        have hsame : Same (WorkerService.failStepParams runId req) _ _ ↔ _ :=
          same_iff (outcome h.safe hanswered) (outcome h'.safe hanswered')
        rw [repeats_iff_same hid, hprog]
        refine hsame.trans ?_
        constructor
        · intro hsettled runId' hid' _
          obtain rfl := Option.some.inj hid'
          exact hsettled
        · exact fun hsettled => hsettled runId rfl hstep

/-- A call that tells about the retry is answered. -/
theorem served_of_answer (scheduled : Bool) (hsafe : ∀ e ∈ es, e.fault = false)
    (h : answerOf (afterFailure cfg p req es) p.calls.length = some scheduled) : Served cfg p req es := by
  refine ⟨hsafe, _, (FailRepeat.stopped cfg p req es).2, ?_⟩
  rw [answerOf, (FailRepeat.stopped cfg p req es).2] at h
  revert h
  change scheduledRetry (store.alone es p.store (handle cfg (.failStep req))).2 = _ → _
  cases (store.alone es p.store (handle cfg (.failStep req))).2 with
  | call _ _ => exact nofun
  | ret _ => exact fun _ => trivial
  | fail _ => exact fun _ => trivial

end Result

/-- The supplies of a `FailStep`, from a time on. -/
def supplies (n seed : Nat) : List Env := (List.range n).map fun k => .quiet 1 (seed + k)

theorem repeats_iff_one_second : Repeats .sample (StepFailure.begun none) StepFailure.failure
    (supplies 3 5) (supplies 3 8) := by
  have h : Served .sample (StepFailure.begun none) StepFailure.failure (supplies 3 5) :=
    served_of_answer true (by decide) (by decide +kernel)
  have h' : Served .sample (afterFailure .sample (StepFailure.begun none) StepFailure.failure (supplies 3 5))
      StepFailure.failure (supplies 3 8) :=
    served_of_answer true (by decide) (by decide +kernel)
  refine (repeats_iff h h').mpr fun runId hid _ s hs => .inl ?_
  obtain rfl : 1 = runId := Option.some.inj hid
  have hdue : ∃ r, (StepFailure.begun none).store.run 1 = some r ∧
      StepRepository.shouldRetry (WorkerService.failStepParams 1 StepFailure.failure) (policyOf r s)
        s.attemptNumber = true := by
    have hall : ∀ r ∈ (StepFailure.begun none).store.run 1, ∀ s ∈ (StepFailure.begun none).store.db.latest
        1 "step", StepRepository.shouldRetry (WorkerService.failStepParams 1 StepFailure.failure)
          (policyOf r s) s.attemptNumber = true := by
      decide +kernel
    have hsome : ((StepFailure.begun none).store.run 1).isSome = true := by decide +kernel
    obtain ⟨r, hr⟩ := Option.isSome_iff_exists.mp hsome
    exact ⟨r, hr, hall r hr s hs⟩
  obtain ⟨r, hr, hshould⟩ := hdue
  have hfits : ∀ r ∈ (StepFailure.begun none).store.run 1, RunRow.Valid (r.retry 1000 1000000) ∧
      ∀ x ∈ (StepFailure.begun none).store.db.runs.rows, x.runId ≠ r.runId →
        ¬ RunRow.Clash x (r.retry 1000 1000000) := by
    decide +kernel
  refine ⟨r, ⟨hr, hs, hshould⟩, fun _ => .inl ⟨1000, .quiet 1 6, .quiet 1 7, [], rfl, ?_⟩⟩
  exact hfits r hr

/-- A failure that no retry can help. -/
def hopeless : FailStepRequest := ⟨"ns", "1", "step", some ⟨.unspecified, "boom", true, 0, "", "", []⟩⟩

/-- A failure that is reported twice is recorded as two attempts. -/
theorem failure_is_recorded_twice : ¬ EveryFailureRepeats .sample := by
  intro h
  have hsteps : Steps (StepFailure.service .sample) (.init (.empty 0) []) (StepFailure.begun none) :=
    AllEnabled.steps (by decide +kernel)
  have hfirst : Served .sample (StepFailure.begun none) hopeless (supplies 3 5) :=
    served_of_answer false (by decide) (by decide +kernel)
  have hsecond : Served .sample (afterFailure .sample (StepFailure.begun none) hopeless (supplies 3 5))
      hopeless (supplies 5 8) :=
    served_of_answer false (by decide) (by decide +kernel)
  have hsame := congrArg List.length (h _ _ hsteps hopeless _ _ hfirst hsecond).steps
  revert hsame
  decide +kernel

end FailRepeat

end Kagzi
