import Kagzi.Server.Service
import Kagzi.Store.RunChange
import Kagzi.Store.StepChange

/-!
# A step fails, and its run is retried

`fail_step` marks the step failed and lets its run wait for the retry in two updates
that are committed one by one.  The second may not come, when the server stops, it may
find the run no longer running, and it may fail: with a policy that was never checked
the delay can be longer than the calendar.  Then the step is failed, and the run is as
it was (`failure_is_split`).

`all_or_nothing_iff` says exactly when a `FailStep` does both or nothing.  A step that is
failed for good, without a retry, is failed in one transaction.
-/

namespace Kagzi

open Atomic Relational

namespace StepFailure

/-- The server, for all requests. -/
abbrev service (cfg : Config) : Service Stmt Stmt.Result World Env Request Status Response :=
  server cfg fun _ => True

/-- The state after a `FailStep` has arrived and its handler has made a statement in each
of the supplies.  With fewer supplies than it makes statements, the server has stopped. -/
def afterFailure (cfg : Config) (p : ServerState) (req : FailStepRequest) (es : List Env) :
    ServerState :=
  fireAll (service cfg) p (.start (.failStep req) :: es.map (.exec p.calls.length))

/-- The attempts of a step. -/
def attempts (w : World) (runId : Uuid) (stepId : String) : List StepRow :=
  w.db.steps.rows.filter (StepRow.ofStep runId stepId)

/-- The step and the run are as they were. -/
structure Untouched (runId : Uuid) (stepId : String) (w w' : World) : Prop where
  step : attempts w' runId stepId = attempts w runId stepId
  run : w'.run runId = w.run runId

/-- The latest attempt of the step has failed. -/
def StepFailed (runId : Uuid) (stepId : String) (w : World) : Prop :=
  ∃ s, w.db.latest runId stepId = some s ∧ s.status = .failed

/-- The policy that `fail` goes by: that of the step, else that of its run. -/
def policyOf (r : RunRow) (s : StepRow) : RetryPolicy :=
  (readPolicy (s.retryPolicy.or r.retryPolicy)).getD .default

/-- When the step fails, its run is to be retried. -/
structure RetryDue (w : World) (params : FailStepParams) (r : RunRow) (s : StepRow) : Prop where
  run : w.run params.runId = some r
  step : w.db.latest params.runId params.stepId = some s
  due : StepRepository.shouldRetry params (policyOf r s) s.attemptNumber = true

/-- The step has failed, and the run waits for the retry; or, when none is due, the run
is as it was. -/
structure Failed (params : FailStepParams) (w w' : World) : Prop where
  step : StepFailed params.runId params.stepId w'
  retried : (∃ r s, RetryDue w params r s) →
    w.HasStatus params.runId .running ∧ w'.HasStatus params.runId .pending
  kept : (¬ ∃ r s, RetryDue w params r s) → w'.run params.runId = w.run params.runId

/-- A `FailStep` does all it is for, or nothing, and when it answers with an error it has
done nothing. -/
structure AllOrNothing (cfg : Config) (p : ServerState) (req : FailStepRequest) (runId : Uuid)
    (es : List Env) : Prop where
  outcome : Untouched runId req.stepId p.store (afterFailure cfg p req es).store ∨
    Failed (WorkerService.failStepParams runId req) p.store (afterFailure cfg p req es).store
  error : ∀ status, (afterFailure cfg p req es).calls[p.calls.length]? =
      some (.failStep req, .fail status) →
    Untouched runId req.stepId p.store (afterFailure cfg p req es).store

/-- Every `FailStep` does all it is for, or nothing. -/
def EveryFailureIsWhole (cfg : Config) : Prop :=
  ∀ (w : World) (p : ServerState), Steps (service cfg) (.init w []) p →
    ∀ (req : FailStepRequest) (runId : Uuid) (es : List Env), cfg.parseUuid req.runId = some runId →
      Steps (service cfg) p (afterFailure cfg p req es) → AllOrNothing cfg p req runId es

/-! ## The condition -/

/-- The delay of a retry, and the supplies that are left when the step is to be marked
failed: the policy is read in the first, and without a delay of its own the request
draws one. -/
def beforeMark (params : FailStepParams) (policy : RetryPolicy) (attempt : Int) :
    List Env → Option (Int × List Env)
  | [] => none
  | first :: es =>
      if first.fault then none
      else
        match params.retryAfterMs, es with
        | some delayMs, es => some (delayMs, es)
        | none, draw :: es => some (policy.calculateDelayMs attempt draw.rand, es)
        | none, [] => none

/-- When the step is marked failed, and was not so already, the next statement finds the
run running, does not fault, and the new deadline fits into the table. -/
def Carried (w : World) (params : FailStepParams) (es : List Env) : Prop :=
  ∀ r s, RetryDue w params r s → ∀ delayMs mark later,
    beforeMark params (policyOf r s) s.attemptNumber es = some (delayMs, mark :: later) →
      mark.fault = false → s.fail params.error mark.now ≠ s →
        ∃ e ∈ later.head?, e.fault = false ∧ r.status = .running ∧
          w.db.FitsInPlace (r.retry (asU64 delayMs) e.began)

/-! ## The two updates -/

section Updates
variable {w : World} {runId : Uuid} {stepId error : String} {s : StepRow} {e : Env}

theorem Untouched.refl : Untouched runId stepId w w := ⟨rfl, rfl⟩

/-- What only reads leaves the step and the run alone. -/
theorem untouched_of_db {w' : World} (h : w'.db = w.db) : Untouched runId stepId w w' := by
  constructor
  · simp only [attempts, h]
  · simp only [World.run, h]

/-- The latest attempt is one of the attempts. -/
theorem mem_attempts (h : w.db.latest runId stepId = some s) : s ∈ attempts w runId stepId := by
  obtain ⟨hid, hstep, -⟩ := isLatestOf_iff.mp (Db.isLatestOf_of_latest h)
  exact List.mem_filter.mpr ⟨Db.mem_of_latest h, by simp [StepRow.ofStep, hid, hstep]⟩

/-- A step whose latest attempt is another has not been left alone. -/
theorem Untouched.latest {w' : World} (h : Untouched runId stepId w w')
    (hs : w.db.latest runId stepId = some s) : w'.db.latest runId stepId = some s := by
  have hmem : s ∈ attempts w' runId stepId := h.step ▸ mem_attempts hs
  exact Db.latest_of_mem (List.mem_filter.mp hmem).1 (Db.isLatestOf_of_latest hs)

/-- The mark never fails by itself. -/
theorem failLatestStep_ok (db : Db) : (failLatestStep runId stepId error e db).1 = .ok () := by
  obtain ⟨steps, hu⟩ := db.steps.update?_of_mild (p := StepRow.isLatestOf runId stepId)
    (f := StepRow.fail error e.now) fun r _ _ => ⟨trivial, fun _ h => h⟩
  simp [failLatestStep, Db.commitSteps, hu]

/-- The mark of a step. -/
theorem latest_of_mark (hs : w.db.latest runId stepId = some s) :
    (failLatestStep runId stepId error e w.db).2.latest runId stepId = some (s.fail error e.now) := by
  obtain ⟨steps, hu⟩ := w.db.steps.update?_of_mild (p := StepRow.isLatestOf runId stepId)
    (f := StepRow.fail error e.now) fun r _ _ => ⟨trivial, fun _ h => h⟩
  have hlatest := latest_update (f := StepRow.fail error e.now) (fun _ _ _ => rfl) hu runId stepId
  rw [hs] at hlatest
  simpa [failLatestStep, Db.commitSteps, hu, Db.isLatestOf_of_latest hs] using hlatest

/-- A mark that changes nothing in the latest attempt changes no attempt. -/
theorem attempts_of_mark (hs : w.db.latest runId stepId = some s) (hsame : s.fail error e.now = s) :
    (failLatestStep runId stepId error e w.db).2.steps.rows = w.db.steps.rows := by
  obtain ⟨steps, hu⟩ := w.db.steps.update?_of_mild (p := StepRow.isLatestOf runId stepId)
    (f := StepRow.fail error e.now) fun r _ _ => ⟨trivial, fun _ h => h⟩
  have hrows : steps.rows = w.db.steps.rows := by
    rw [Table.update?_rows hu]
    refine (List.map_congr_left fun r hr => ?_).trans (List.map_id _)
    show amend _ _ r = r
    unfold amend
    split
    next hl =>
      obtain rfl := Option.some.inj (hs.symm.trans (Db.latest_of_mem hr hl))
      exact hsame
    next => rfl
  simpa [failLatestStep, Db.commitSteps, hu] using hrows

/-- The run after the update for the retry: it waits if it was running and fits in its
place, and is as it was otherwise. -/
theorem retry_cases {r : RunRow} {delayMs : Nat} (hr : w.run runId = some r) :
    ((∃ hit, (store.exec e (.scheduleRetry runId delayMs) w).1 = .ok hit) ∧ r.status = .running ∧
        e.fault = false ∧ w.db.FitsInPlace (r.retry delayMs e.began) ∧
        (store.exec e (.scheduleRetry runId delayMs) w).2.run runId = some (r.retry delayMs e.began)) ∨
      (¬ (r.status = .running ∧ e.fault = false ∧ w.db.FitsInPlace (r.retry delayMs e.began)) ∧
        (store.exec e (.scheduleRetry runId delayMs) w).2.run runId = some r) := by
  rw [store_exec_fst, store_exec_run]
  cases hfault : e.fault with
  | true =>
      rw [Stmt.exec_of_fault hfault rfl]
      exact .inr ⟨by simp, hr⟩
  | false =>
      rw [Stmt.exec_of_safe hfault]
      have hrow : w.db.run runId = some r := hr
      cases hres : (updateAt runId .running (RunRow.retry delayMs) e w.db).1 with
      | ok hit =>
          have hnew := updateAt_ok (f := RunRow.retry delayMs) (fun _ _ => rfl) hres
          rw [hrow, Option.map_some] at hnew
          by_cases hs : r.status = .running
          · have hfits := (updateAt_ok_iff (f := RunRow.retry delayMs) (fun _ _ => rfl) hrow hs).mp
              ⟨hit, hres⟩
            exact .inl ⟨⟨hit, hres⟩, hs, rfl, hfits, hnew.trans (by rw [if_pos hs])⟩
          · exact .inr ⟨fun hall => hs hall.1, hnew.trans (by rw [if_neg hs])⟩
      | error x =>
          refine .inr ⟨?_, (congrArg (Db.run · runId) (Db.commitRuns_error hres)).trans hrow⟩
          rintro ⟨hs, -, hfits⟩
          obtain ⟨hit, hok⟩ := (updateAt_ok_iff (f := RunRow.retry delayMs) (fun _ _ => rfl) hrow hs).mpr
            hfits
          rw [hres] at hok
          cases hok

end Updates

/-! ## The handler -/

section Handler
variable {cfg : Config} {req : FailStepRequest} {runId : Uuid} {params : FailStepParams} {w : World}
  {r : RunRow} {s : StepRow}

/-- A statement of a function of the store that succeeds. -/
theorem alone_ok {α β : Type} {q : Stmt} {f : q.Ans → Store α} {g : α → Rpc β} {e : Env} {es : List Env}
    {a : q.Ans} (h : (store.exec e q w).1 = .ok a) :
    store.alone (e :: es) w (call (sql q >>= f) >>= g) =
      store.alone es (store.exec e q w).2 (call (f a) >>= g) := by
  show store.alone es _ (call (Prog.ofExcept (store.exec e q w).1 >>= f) >>= g) = _
  rw [h]
  rfl

/-- A statement of a function of the store that fails. -/
theorem alone_error {α β : Type} {q : Stmt} {f : q.Ans → Store α} {g : α → Rpc β} {e : Env}
    {es : List Env} {x : StoreError} (h : (store.exec e q w).1 = .error x) :
    store.alone (e :: es) w (call (sql q >>= f) >>= g) =
      ((store.exec e q w).2, .fail (mapStoreError x)) := by
  show store.alone es _ (call (Prog.ofExcept (store.exec e q w).1 >>= f) >>= g) = _
  rw [h]
  exact store.alone_fail es _ _

/-- A random number is drawn without the database. -/
theorem exec_random (e : Env) (w : World) :
    (store.exec e .random w).1 = .ok e.rand ∧ (store.exec e .random w).2.db = w.db := by
  have hexec : (Stmt.random).exec e w.db = (.ok e.rand, w.db) := by
    simp [Stmt.exec, Stmt.isLocal, Stmt.sql]
  exact ⟨congrArg Prod.fst hexec, congrArg Prod.snd hexec⟩

/-- The end of `fail_step`, from the result of `fail`. -/
def rest (runId : Uuid) (result : FailStepResult) : Rpc Response := do
  WorkerService.scheduleRetry runId result.scheduleWorkflowRetryMs
  pure (.failStep result.scheduledRetry)

/-- The end of `fail`, and of `fail_step`, when a retry is scheduled. -/
def marking (params : FailStepParams) (delayMs : Int) : Rpc Response :=
  call (do
    sql (.failLatestStep params.runId params.stepId params.error)
    pure ⟨true, some (asU64 delayMs)⟩) >>= rest params.runId

/-- `fail_step`, for a request that is well formed. -/
theorem handle_failStep (hid : cfg.parseUuid req.runId = some runId) (hstep : req.stepId ≠ "") :
    handle cfg (.failStep req) =
      (call (StepRepository.fail (WorkerService.failStepParams runId req)) >>= rest runId) := by
  simp only [handle, WorkerService.failStep, Config.uuid, hid, orFail, requireNonEmpty, if_neg hstep,
    Prog.ret_bind]
  rfl

/-- Where the statements of a `FailStep` that is to schedule a retry lead: to nothing, or
to the mark. -/
theorem alone_due (hdue : RetryDue w params r s) (es : List Env) :
    ((store.alone es w (call (StepRepository.fail params) >>= rest params.runId)).1.db = w.db ∧
        beforeMark params (policyOf r s) s.attemptNumber es = none) ∨
      ∃ w' delayMs later, w'.db = w.db ∧
        beforeMark params (policyOf r s) s.attemptNumber es = some (delayMs, later) ∧
        store.alone es w (call (StepRepository.fail params) >>= rest params.runId) =
          store.alone later w' (marking params delayMs) := by
  cases es with
  | nil => exact .inl ⟨rfl, rfl⟩
  | cons first es =>
      have hkept : (store.exec first (.getRetryInfo params.runId params.stepId) w).2.db = w.db := by
        show ((Stmt.getRetryInfo params.runId params.stepId).exec first w.db).2 = w.db
        rcases Stmt.exec_cases first (.getRetryInfo params.runId params.stepId) w.db with hx | hx
        · rw [hx]
        · rw [hx]
          rfl
      cases hfault : first.fault with
      | true =>
          have hres : (store.exec first (.getRetryInfo params.runId params.stepId) w).1 =
              .error .database := by
            rw [store_exec_fst, Stmt.exec_of_fault hfault rfl]
          refine .inl ⟨?_, by simp [beforeMark, hfault]⟩
          rw [StepRepository.fail, alone_error hres]
          exact hkept
      | false =>
          have hres : (store.exec first (.getRetryInfo params.runId params.stepId) w).1 =
              .ok (some ⟨s.attemptNumber, readPolicy (s.retryPolicy.or r.retryPolicy)⟩) := by
            rw [store_exec_fst, Stmt.exec_of_safe hfault]
            show (getRetryInfo params.runId params.stepId first w.db).1 = _
            simp [getRetryInfo, show w.db.run params.runId = some r from hdue.run, hdue.step]
          have hshould : StepRepository.shouldRetry params ((readPolicy (s.retryPolicy.or r.retryPolicy)).getD .default)
              s.attemptNumber = true := hdue.due
          rw [StepRepository.fail, alone_ok hres]
          simp only [hshould, if_true, StepRepository.retryDelayMs]
          cases hafter : params.retryAfterMs with
          | some delayMs =>
              refine .inr ⟨_, delayMs, es, hkept, by simp [beforeMark, hfault, hafter], rfl⟩
          | none =>
              cases es with
              | nil => exact .inl ⟨hkept, by simp [beforeMark, hfault, hafter]⟩
              | cons draw later =>
                  obtain ⟨hrand, hdb⟩ := exec_random draw
                    (store.exec first (.getRetryInfo params.runId params.stepId) w).2
                  refine .inr ⟨(store.exec draw .random _).2, (policyOf r s).calculateDelayMs
                    s.attemptNumber draw.rand, later, hdb.trans hkept,
                    by simp [beforeMark, hfault, hafter], ?_⟩
                  exact (congrArg (fun c : Store FailStepResult => store.alone _ _ (call c >>= _))
                    (Prog.bind_assoc _ _ _)).trans (alone_ok hrand)

/-- The mark that faults. -/
theorem alone_mark_fault {mark : Env} {later : List Env} {delayMs : Int} (hfault : mark.fault = true) :
    (store.alone (mark :: later) w (marking params delayMs)).1.db = w.db := by
  have hexec := @Stmt.exec_of_fault mark
    (.failLatestStep params.runId params.stepId params.error) w.db hfault rfl
  have hres : (store.exec mark (.failLatestStep params.runId params.stepId params.error) w).1 =
      .error .database := congrArg Prod.fst hexec
  rw [marking, alone_error hres]
  exact congrArg Prod.snd hexec

/-- The mark that does not. -/
theorem alone_mark {mark : Env} {later : List Env} {delayMs : Int} (hsafe : mark.fault = false) :
    ∃ w', w'.db = (failLatestStep params.runId params.stepId params.error mark w.db).2 ∧
      store.alone (mark :: later) w (marking params delayMs) =
        store.alone later w' (rest params.runId ⟨true, some (asU64 delayMs)⟩) := by
  have hexec := @Stmt.exec_of_safe mark
    (.failLatestStep params.runId params.stepId params.error) w.db hsafe
  have hres : (store.exec mark (.failLatestStep params.runId params.stepId params.error) w).1 =
      .ok () := (congrArg Prod.fst hexec).trans (failLatestStep_ok w.db)
  exact ⟨_, congrArg Prod.snd hexec, alone_ok hres⟩

/-- The next statement comes, and the run can be put off. -/
def Retries (w : World) (r : RunRow) (delayMs : Nat) (later : List Env) : Prop :=
  ∃ e ∈ later.head?, e.fault = false ∧ r.status = .running ∧ w.db.FitsInPlace (r.retry delayMs e.began)

/-- What becomes of the run of a step that is marked. -/
theorem alone_rest (hr : w.run runId = some r) (delayMs : Nat) (later : List Env) :
    (store.alone later w (rest runId ⟨true, some delayMs⟩)).1.db.steps = w.db.steps ∧
      ((Retries w r delayMs later ∧
          (store.alone later w (rest runId ⟨true, some delayMs⟩)).2 = .ret (.failStep true) ∧
          ∃ now, (store.alone later w (rest runId ⟨true, some delayMs⟩)).1.run runId =
            some (r.retry delayMs now)) ∨
        (¬ Retries w r delayMs later ∧
          (store.alone later w (rest runId ⟨true, some delayMs⟩)).1.run runId = some r)) := by
  cases later with
  | nil => exact ⟨rfl, .inr ⟨by simp [Retries], hr⟩⟩
  | cons e later =>
      have hiff : Retries w r delayMs (e :: later) ↔
          r.status = .running ∧ e.fault = false ∧ w.db.FitsInPlace (r.retry delayMs e.began) := by
        simp only [Retries, List.head?_cons, Option.mem_def, Option.some.injEq, exists_eq_left']
        exact and_left_comm
      have hsteps : (store.exec e (.scheduleRetry runId delayMs) w).2.db.steps = w.db.steps := by
        show ((Stmt.scheduleRetry runId delayMs).exec e w.db).2.steps = _
        rcases Stmt.exec_cases e (.scheduleRetry runId delayMs) w.db with hx | hx
        · rw [hx]
        · rw [hx]
          exact Stmt.sql_sparesSteps rfl e w.db
      have hrest : rest runId ⟨true, some delayMs⟩ =
          (call (sql (.scheduleRetry runId delayMs) >>= fun _ => pure ()) >>= fun _ =>
            .ret (Response.failStep true)) := rfl
      have hgo : ∀ {hit}, (store.exec e (.scheduleRetry runId delayMs) w).1 = .ok hit →
          store.alone (e :: later) w (rest runId ⟨true, some delayMs⟩) =
            ((store.exec e (.scheduleRetry runId delayMs) w).2, .ret (.failStep true)) := by
        intro hit hres
        rw [hrest, alone_ok hres]
        exact store.alone_ret later _ _
      have hdone : (store.alone (e :: later) w (rest runId ⟨true, some delayMs⟩)).1 =
          (store.exec e (.scheduleRetry runId delayMs) w).2 := by
        cases hres : (store.exec e (.scheduleRetry runId delayMs) w).1 with
        | ok hit => rw [hgo hres]
        | error x => rw [hrest, alone_error hres]
      rw [hdone, hiff]
      refine ⟨hsteps, ?_⟩
      rcases @retry_cases w runId e r delayMs hr with ⟨⟨hit, hok⟩, hs, hsafe, hfits, hrow⟩ | hno
      · exact .inl ⟨⟨hs, hsafe, hfits⟩, by rw [hgo hok], _, hrow⟩
      · exact .inr hno

/-- What `AllOrNothing` says of where a `FailStep` has stopped. -/
def Whole (params : FailStepParams) (w : World) (stopped : World × Rpc Response) : Prop :=
  (Untouched params.runId params.stepId w stopped.1 ∨ Failed params w stopped.1) ∧
    ∀ status, stopped.2 = .fail status → Untouched params.runId params.stepId w stopped.1

theorem whole_of_untouched {stopped : World × Rpc Response}
    (h : Untouched params.runId params.stepId w stopped.1) : Whole params w stopped :=
  ⟨.inl h, fun _ _ => h⟩

/-- The store after the mark: the run is as it was, and so is every other run. -/
theorem marked {w' : World} {e : Env} (hdue : RetryDue w params r s)
    (h : w'.db = (failLatestStep params.runId params.stepId params.error e w.db).2) :
    w'.run params.runId = some r ∧
      w'.db.latest params.runId params.stepId = some (s.fail params.error e.now) ∧
      ∀ delayMs later, Retries w' r delayMs later ↔ Retries w r delayMs later := by
  have hruns : w'.db.runs = w.db.runs := by
    rw [h]
    exact (Db.commitSteps_runs ..).runs
  refine ⟨?_, by rw [h]; exact latest_of_mark hdue.step, fun delayMs later => ?_⟩
  · exact (Db.run_congr hruns _).trans hdue.run
  · simp only [Retries, Db.FitsInPlace, hruns]

/-- A `FailStep` that has marked the step. -/
theorem whole_iff_of_marked {w' : World} {mark : Env} {later : List Env} {delayMs : Nat}
    (hdue : RetryDue w params r s)
    (h : w'.db = (failLatestStep params.runId params.stepId params.error mark w.db).2) :
    Whole params w (store.alone later w' (rest params.runId ⟨true, some delayMs⟩)) ↔
      (s.fail params.error mark.now ≠ s → Retries w r delayMs later) := by
  obtain ⟨hrun, hlatest, hretries⟩ := marked hdue h
  obtain ⟨hsteps, hcases⟩ := alone_rest hrun delayMs later
  generalize store.alone later w' (rest params.runId ⟨true, some delayMs⟩) = stopped at hsteps hcases ⊢
  have hstopped : stopped.1.db.latest params.runId params.stepId =
      some (s.fail params.error mark.now) := (Db.latest_congr hsteps _ _).trans hlatest
  rw [hretries] at hcases
  rcases hcases with ⟨hretry, hret, now, hrow⟩ | ⟨hno, hrow⟩
  · obtain ⟨e, -, -, hs, -⟩ := id hretry
    refine ⟨fun _ _ => hretry, fun _ => ⟨.inr ⟨⟨_, hstopped, rfl⟩, fun _ => ?_, fun hnone => ?_⟩, ?_⟩⟩
    · exact ⟨⟨r, hdue.run, hs⟩, _, hrow, rfl⟩
    · exact absurd ⟨r, s, hdue⟩ hnone
    · intro status hfail
      rw [hret] at hfail
      cases hfail
  · constructor
    · rintro ⟨huntouched | hfailed, -⟩ hnew
      · exact absurd (Option.some.inj (hstopped.symm.trans (huntouched.latest hdue.step))) hnew
      · obtain ⟨⟨r₁, hr₁, hs₁⟩, r₂, hr₂, hs₂⟩ := hfailed.retried ⟨r, s, hdue⟩
        obtain rfl := Option.some.inj (hdue.run.symm.trans hr₁)
        obtain rfl := Option.some.inj (hrow.symm.trans hr₂)
        rw [hs₁] at hs₂
        cases hs₂
    · intro hif
      have hsame : s.fail params.error mark.now = s := Classical.byContradiction fun hne => hno (hif hne)
      refine whole_of_untouched ⟨?_, hrow.trans hdue.run.symm⟩
      have hrows := attempts_of_mark hdue.step hsame
      rw [← h, ← hsteps] at hrows
      simp only [attempts, hrows]

/-- A `FailStep` that is to schedule a retry. -/
theorem whole_iff_of_due (hdue : RetryDue w params r s) (es : List Env) :
    Whole params w (store.alone es w (call (StepRepository.fail params) >>= rest params.runId)) ↔
      ∀ delayMs mark later,
        beforeMark params (policyOf r s) s.attemptNumber es = some (delayMs, mark :: later) →
          mark.fault = false → s.fail params.error mark.now ≠ s → Retries w r (asU64 delayMs) later := by
  rcases alone_due hdue es with ⟨hdb, hnone⟩ | ⟨w', delayMs, later, hdb, hsome, halone⟩
  · rw [hnone]
    exact ⟨fun _ => nofun, fun _ => whole_of_untouched (untouched_of_db hdb)⟩
  rw [halone, hsome]
  cases later with
  | nil => exact ⟨fun _ => nofun, fun _ => whole_of_untouched (untouched_of_db hdb)⟩
  | cons mark later =>
      cases hfault : mark.fault with
      | true =>
          refine ⟨fun _ _ _ _ heq hsafe => ?_,
            fun _ => whole_of_untouched (untouched_of_db ((alone_mark_fault hfault).trans hdb))⟩
          obtain ⟨rfl, rfl, rfl⟩ : _ ∧ mark = _ ∧ later = _ := by simpa using heq
          rw [hfault] at hsafe
          cases hsafe
      | false =>
          obtain ⟨w'', hdb', halone'⟩ := @alone_mark params w' mark later delayMs hfault
          rw [halone', whole_iff_of_marked hdue (hdb'.trans (by rw [hdb]))]
          constructor
          · rintro hretries _ _ _ heq -
            obtain ⟨rfl, rfl, rfl⟩ : delayMs = _ ∧ mark = _ ∧ later = _ := by simpa using heq
            exact hretries
          · exact fun hretries => hretries delayMs mark later rfl hfault

/-! ## No retry -/

/-- A statement of a handler that has changed nothing yet: where it stops or fails,
nothing is changed. -/
theorem whole_sql {α : Type} {q : Stmt} {f : q.Ans → Store α} {g : α → Rpc Response} {w' : World}
    (hdb : w'.db = w.db) (herr : ∀ e x, (q.exec e w.db).1 = .error x → (q.exec e w.db).2 = w.db)
    (hok : ∀ e a es w'', (q.exec e w.db).1 = .ok a → w''.db = (q.exec e w.db).2 →
      Whole params w (store.alone es w'' (call (f a) >>= g))) (es : List Env) :
    Whole params w (store.alone es w' (call (sql q >>= f) >>= g)) := by
  cases es with
  | nil => exact whole_of_untouched (untouched_of_db hdb)
  | cons e es =>
      have hafter : (store.exec e q w').2.db = (q.exec e w.db).2 := by rw [← hdb]; rfl
      cases hres : (store.exec e q w').1 with
      | ok a =>
          rw [alone_ok hres]
          exact hok e a es _ (by rw [← hdb]; exact hres) hafter
      | error x =>
          rw [alone_error hres]
          exact whole_of_untouched (untouched_of_db (hafter.trans
            (herr e x (by rw [← hdb]; exact hres))))

/-- The step has failed for good. -/
theorem whole_of_failed {w' : World} {q : Stmt} {e : Env} {output : Option Bytes}
    (hnone : ¬ ∃ r s, RetryDue w params r s) (hq : q.sparesRuns = true)
    (hdb : w'.db = (q.exec e w.db).2) (hlatest : w'.db.HasLatest params.runId params.stepId .failed output)
    (es : List Env) :
    Whole params w (store.alone es w' (call (pure ⟨false, none⟩) >>= rest params.runId)) := by
  have hstopped : store.alone es w' (call (pure ⟨false, none⟩) >>= rest params.runId) =
      (w', .ret (.failStep false)) := store.alone_ret es w' _
  rw [hstopped]
  refine ⟨.inr ⟨?_, fun hdue => absurd hdue hnone, fun _ => ?_⟩, nofun⟩
  · obtain ⟨s, hs, hstatus, -⟩ := hlatest
    exact ⟨s, hs, hstatus⟩
  · have hruns : w'.db.runs = w.db.runs := by
      rw [hdb]
      rcases Stmt.exec_cases e q w.db with hx | hx
      · rw [hx]
      · rw [hx]
        exact (Stmt.sql_sparesRuns hq e w.db).runs
    exact Db.run_congr hruns _

/-- The update of the running attempt, when it hits nothing. -/
theorem failRunningStep_miss {e : Env} {db : Db} {runId : Uuid} {stepId error : String}
    (h : (failRunningStep runId stepId error e db).1 ≠ .ok true) :
    (failRunningStep runId stepId error e db).2 = db := by
  cases hany : db.steps.rows.any (StepRow.isRunningOf runId stepId) with
  | true =>
      obtain ⟨steps, hu⟩ := db.steps.update?_of_mild (p := StepRow.isRunningOf runId stepId)
        (f := StepRow.fail error e.began) fun r _ _ => ⟨trivial, fun _ h => h⟩
      exact absurd (by simp [failRunningStep, Db.commitSteps, hu, hany]) h
  | false =>
      have hnone := Table.update?_of_none (t := db.steps) (f := StepRow.fail error e.began)
        fun r hr => by simpa using List.any_eq_false.mp hany r hr
      simp [failRunningStep, Db.commitSteps, hnone]

theorem failRunningStep_hit {e : Env} {db : Db} {runId : Uuid} {stepId error : String}
    (h : (failRunningStep runId stepId error e db).1 = .ok true) :
    ∃ output, (failRunningStep runId stepId error e db).2.HasLatest runId stepId .failed output := by
  unfold failRunningStep Db.commitSteps at h ⊢
  dsimp only at h ⊢
  split at h
  next steps hu =>
    obtain ⟨row, hmem, hp⟩ := List.any_eq_true.mp (Except.ok.inj h)
    have hlat := Db.latest_of_mem hmem (isRunningOf_iff.mp hp).1
    refine ⟨row.output, row.fail error e.began, ?_, rfl, rfl⟩
    have hnew := latest_update (f := StepRow.fail error e.began) (fun _ _ _ => rfl) hu runId stepId
    rw [hlat] at hnew
    simpa [hp] using hnew
  next => cases h

/-- What a statement that reads leaves behind. -/
theorem exec_of_reads {q : Stmt} {e : Env} {db : Db} (h : (q.sql e db).2 = db) : (q.exec e db).2 = db := by
  rcases q.exec_cases e db with hx | hx
  · rw [hx]
  · rw [hx, h]

/-- What a write that misses leaves behind. -/
theorem exec_of_miss {q : Stmt} {e : Env} {db : Db} {hit : q.Ans}
    (hmiss : (q.sql e db).1 ≠ .ok hit → (q.sql e db).2 = db) (h : (q.exec e db).1 ≠ .ok hit) :
    (q.exec e db).2 = db := by
  rcases q.exec_cases e db with hx | hx
  · rw [hx]
  · rw [hx] at h ⊢
    exact hmiss h

/-- The attempt that replaces the latest one of the step. -/
theorem whole_replaceLatest {w' : World} {step : NewStep} (hnone : ¬ ∃ r s, RetryDue w params r s)
    (hdb : w'.db = w.db) (hid : step.runId = params.runId) (hstep : step.stepId = params.stepId)
    (hstatus : step.status = .failed) (es : List Env) :
    Whole params w (store.alone es w'
      (call (StepRepository.replaceLatest step >>= fun _ => pure ⟨false, none⟩) >>= rest params.runId)) := by
  have hlatest : ∀ {db : Db}, db.HasLatest step.runId step.stepId step.status step.output →
      db.HasLatest params.runId params.stepId .failed step.output := by
    rw [hid, hstep, hstatus]
    exact fun h => h
  rw [StepRepository.replaceLatest, Prog.bind_assoc]
  refine whole_sql hdb (fun e x hres => exec_of_miss (q := .supersede step) supersede_miss (by rw [hres]; exact nofun))
    ?_ es
  rintro e (_ | _) es w₁ hres hdb₁
  · have hkept : w₁.db = w.db :=
      hdb₁.trans (exec_of_miss (q := .supersede step) supersede_miss (by rw [hres]; simp))
    refine whole_sql hkept
      (fun e x hres => exec_of_miss (q := .insertStep step) insertStep_miss (by rw [hres]; exact nofun)) ?_ es
    intro e a es w₂ hres hdb₂
    refine whole_of_failed hnone rfl hdb₂
      (show w₂.db.HasLatest params.runId params.stepId .failed step.output from ?_) es
    rw [hdb₂, Stmt.exec_ok hres]
    rw [Stmt.exec_ok hres] at hres
    exact hlatest (insertStep_hit hres)
  · refine whole_of_failed hnone rfl hdb₁
      (show w₁.db.HasLatest params.runId params.stepId .failed step.output from ?_) es
    rw [hdb₁, Stmt.exec_ok hres]
    rw [Stmt.exec_ok hres] at hres
    exact hlatest (supersede_hit hres)

/-- The end of `fail` without a retry. -/
theorem whole_failForGood {w' : World} (hnone : ¬ ∃ r s, RetryDue w params r s) (hdb : w'.db = w.db)
    (es : List Env) :
    Whole params w
      (store.alone es w' (call (StepRepository.failForGood params) >>= rest params.runId)) := by
  rw [StepRepository.failForGood, StepRepository.latestStepKindStrict, Prog.bind_assoc]
  refine whole_sql hdb (fun e x _ => exec_of_reads rfl) ?_ es
  rintro e (_ | kind) es w₁ - hdb₁
  · have hread : w₁.db = w.db := hdb₁.trans (exec_of_reads rfl)
    change Whole params w (store.alone es w₁ (.fail _))
    rw [store.alone_fail]
    exact whole_of_untouched (untouched_of_db hread)
  have hread : w₁.db = w.db := hdb₁.trans (exec_of_reads rfl)
  refine whole_sql hread
    (fun e x hres => exec_of_miss (q := .failRunningStep _ _ _) failRunningStep_miss (by rw [hres]; exact nofun)) ?_ es
  rintro e (_ | _) es w₂ hres hdb₂
  · have hkept : w₂.db = w.db :=
      hdb₂.trans (exec_of_miss (q := .failRunningStep _ _ _) failRunningStep_miss (by rw [hres]; simp))
    refine whole_sql hkept (fun e x _ => exec_of_reads rfl) ?_ es
    rintro e a es w₃ - hdb₃
    exact whole_replaceLatest hnone (hdb₃.trans (exec_of_reads rfl)) rfl rfl rfl es
  · have hhit := hres
    rw [Stmt.exec_ok hres] at hhit
    obtain ⟨output, hlatest⟩ := failRunningStep_hit hhit
    refine whole_of_failed hnone rfl hdb₂
      (show w₂.db.HasLatest params.runId params.stepId .failed output from ?_) es
    rw [hdb₂, Stmt.exec_ok hres]
    exact hlatest

/-- A `FailStep` that is to schedule no retry. -/
theorem whole_of_not_due (hnone : ¬ ∃ r s, RetryDue w params r s) (es : List Env) :
    Whole params w (store.alone es w (call (StepRepository.fail params) >>= rest params.runId)) := by
  refine whole_sql rfl ?_ ?_ es
  · exact fun e x _ => exec_of_reads rfl
  · intro e a es w' hres hdb
    have hread : w'.db = w.db := hdb.trans (exec_of_reads rfl)
    cases a with
    | none => exact whole_failForGood hnone hread es
    | some info =>
        have hshould : StepRepository.shouldRetry params (info.retryPolicy.getD .default)
            info.attemptNumber ≠ true := by
          intro hdue
          rw [Stmt.exec_ok hres] at hres
          change (getRetryInfo params.runId params.stepId e w.db).1 = _ at hres
          simp only [getRetryInfo, Except.ok.injEq, Option.bind_eq_some_iff, Option.map_eq_some_iff] at hres
          obtain ⟨r, hr, s, hs, rfl⟩ := hres
          exact hnone ⟨r, s, hr, hs, hdue⟩
        simp only [hshould]
        exact whole_failForGood hnone hread es

/-! ## The result -/

/-- Where the handler stops is where the program does. -/
theorem allOrNothing_iff_whole {p : ServerState} (es : List Env) :
    AllOrNothing cfg p req runId es ↔ Whole (WorkerService.failStepParams runId req) p.store
      (store.alone es p.store (handle cfg (.failStep req))) := by
  obtain ⟨hstore, hcall⟩ := fireAll_arrival_alone (service cfg) p (.failStep req) es
  have hprog : (afterFailure cfg p req es).calls[p.calls.length]? =
      some (.failStep req, (store.alone es p.store (handle cfg (.failStep req))).2) := hcall
  have hstopped : (afterFailure cfg p req es).store =
      (store.alone es p.store (handle cfg (.failStep req))).1 := hstore
  constructor
  · rintro ⟨houtcome, herror⟩
    rw [hstopped] at houtcome herror
    refine ⟨houtcome, fun status hfail => herror status ?_⟩
    rw [hprog, hfail]
  · rintro ⟨houtcome, herror⟩
    constructor
    · rw [hstopped]
      exact houtcome
    · intro status hfail
      rw [hstopped]
      rw [hprog] at hfail
      exact herror status (Prod.mk.inj (Option.some.inj hfail)).2

/-- In every state, a `FailStep` does all it is for or nothing exactly if the step has no
name, or the retry is carried out once the step is marked. -/
theorem all_or_nothing_iff (cfg : Config) (p : ServerState) {req : FailStepRequest} {runId : Uuid}
    (hid : cfg.parseUuid req.runId = some runId) (es : List Env) :
    AllOrNothing cfg p req runId es ↔
      (req.stepId = "" ∨ Carried p.store (WorkerService.failStepParams runId req) es) := by
  rw [allOrNothing_iff_whole]
  by_cases hstep : req.stepId = ""
  · have hrefused : handle cfg (.failStep req) =
        .fail (invalidArgumentError ("step_id" ++ " is required")) := by
      simp only [handle, WorkerService.failStep, Config.uuid, hid, orFail, requireNonEmpty,
        if_pos hstep, Prog.ret_bind, Prog.fail_bind]
    rw [hrefused, store.alone_fail]
    exact ⟨fun _ => .inl hstep, fun _ => whole_of_untouched .refl⟩
  rw [handle_failStep hid hstep, or_iff_right hstep]
  by_cases hdue : ∃ r s, RetryDue p.store (WorkerService.failStepParams runId req) r s
  · obtain ⟨r, s, hdue⟩ := hdue
    refine (whole_iff_of_due hdue es).trans ⟨fun h r' s' hdue' => ?_, fun h => h r s hdue⟩
    obtain rfl := Option.some.inj (hdue.run.symm.trans hdue'.run)
    obtain rfl := Option.some.inj (hdue.step.symm.trans hdue'.step)
    exact h
  · exact ⟨fun _ r s hdue' => absurd ⟨r, s, hdue'⟩ hdue, fun _ => whole_of_not_due hdue es⟩

end Handler

/-- A worker has begun a step of its run, with a policy of its own. -/
def begun (policy : Option ProtoPolicy) : ServerState :=
  fireAll (service .sample) (.init (.empty 0) [])
    ([.start (.startWorkflow ⟨"job", "queue", "type", none, "ns", "", none⟩)] ++
      runs 0 6 (.quiet 0 1) ++
    [.start (.register ⟨"ns", "queue", ["type"], "host", 7, ""⟩)] ++ runs 1 1 (.quiet 0 2) ++
    [.start (.pollTask ⟨"queue", "2", "ns", ["type"]⟩ 0)] ++ runs 2 2 (.quiet 0 3) ++
    [.start (.beginStep ⟨"ns", "1", "step", 1, none, policy⟩)] ++ runs 3 7 (.quiet 0 4))

/-- A failure that asks for a retry after a second. -/
def failure : FailStepRequest := ⟨"ns", "1", "step", some ⟨.unspecified, "boom", false, 1000, "", "", []⟩⟩

/-- The four statements of its handler. -/
def fourSupplies : List Env := [.quiet 1 5, .quiet 1 6, .quiet 1 7, .quiet 1 8]

theorem all_or_nothing_iff_one_second : AllOrNothing .sample (begun none) failure 1 fourSupplies := by
  have hretries : ∀ r ∈ (begun none).store.run 1, r.status = .running ∧
      RunRow.Valid (r.retry 1000 1000000) ∧ ∀ x ∈ (begun none).store.db.runs.rows,
        x.runId ≠ r.runId → ¬ RunRow.Clash x (r.retry 1000 1000000) := by
    decide +kernel
  refine (all_or_nothing_iff .sample (begun none) (by decide) fourSupplies).mpr (.inr ?_)
  intro r s hdue delayMs mark later hmark _ _
  obtain ⟨-, rfl, rfl, rfl⟩ : (Env.quiet 1 5).fault = false ∧ 1000 = delayMs ∧ .quiet 1 6 = mark ∧
      [.quiet 1 7, .quiet 1 8] = later := by
    simpa [beforeMark, WorkerService.failStepParams, WorkerService.errorDetail, failure, fourSupplies]
      using hmark
  obtain ⟨hs, hvalid, hfree⟩ := hretries r hdue.run
  exact ⟨_, rfl, rfl, hs, hvalid, hfree⟩

/-- A policy that `BeginStep` takes as it is. -/
def endless : ProtoPolicy := ⟨5, 9223372036854775807, .finite 2, 9223372036854775807, []⟩

/-- With a delay beyond the calendar the step is failed, the run is left running, and
`FailStep` answers with an error. -/
theorem failure_is_split : ¬ EveryFailureIsWhole .sample := by
  intro hwhole
  have hsteps : Steps (service .sample) (.init (.empty 0) []) (begun (some endless)) :=
    AllEnabled.steps (by decide +kernel)
  have hafter : Steps (service .sample) (begun (some endless))
      (afterFailure .sample (begun (some endless)) ⟨"ns", "1", "step", none⟩ fourSupplies) :=
    AllEnabled.steps (by decide +kernel)
  have hbefore : ((begun (some endless)).store.db.latest 1 "step").map StepRow.status =
      some .running := by decide +kernel
  have hmarked : ((afterFailure .sample (begun (some endless)) ⟨"ns", "1", "step", none⟩
      fourSupplies).store.db.latest 1 "step").map StepRow.status = some .failed := by decide +kernel
  have hrun : ((afterFailure .sample (begun (some endless)) ⟨"ns", "1", "step", none⟩
      fourSupplies).store.run 1).map RunRow.status = some .running := by decide +kernel
  have hdue : ∃ r ∈ (begun (some endless)).store.run 1,
      ∃ s ∈ (begun (some endless)).store.db.latest 1 "step", StepRepository.shouldRetry
        (WorkerService.failStepParams 1 ⟨"ns", "1", "step", none⟩) (policyOf r s) s.attemptNumber = true := by
    decide +kernel
  obtain ⟨r, hr, s, hs, hshould⟩ := hdue
  rcases (hwhole _ _ hsteps ⟨"ns", "1", "step", none⟩ 1 fourSupplies (by decide) hafter).outcome with
    huntouched | hfailed
  · rw [Option.mem_def.mp hs] at hbefore
    rw [huntouched.latest hs] at hmarked
    exact absurd (hbefore.symm.trans hmarked) (by decide)
  · obtain ⟨-, r', hr', hs'⟩ := hfailed.retried ⟨r, s, hr, hs, hshould⟩
    have hstatus : r'.status = .running := by
      have hr'' := hrun
      rw [show (afterFailure .sample (begun (some endless)) ⟨"ns", "1", "step", none⟩
        fourSupplies).store.run 1 = some r' from hr'] at hr''
      exact Option.some.inj hr''
    rw [hstatus] at hs'
    cases hs'

end StepFailure

end Kagzi
