import Kagzi.Budget.Life

/-!
# The retry budget of a step

`Retry { attempts: n, .. }` of the SDK says how often a step is tried again: not at
all for 0, without end for `u32::MAX`, and `n` times otherwise.  The number travels
as an `i32` in the message, where 0 means that it is not set, is merged with the
policy of the run or the default one, and is compared with the attempt number of the
latest row of the step.

So a step with `Retry::none()` is tried five times when the run has no policy
(`not_in_budget`), and one with more than `i32::MAX` attempts is tried without end.
A policy whose coefficient is infinite is lost on its way through the database, and the
default one counts instead (`policy_eq_default`).  For the other numbers the budget is kept
(`budget_kept_if_counted`).
-/

namespace Kagzi

open Atomic Attempts

namespace Budget

open Custody Sdk Unexecuted Sleeping

/-! ## What is claimed -/

/-- What the documentation promises for `n` attempts, after `k` executions, of a run
with the status. -/
def Kept (n k : Nat) (status : WorkflowStatus) : Prop :=
  if n = 0 then k ≤ 1 ∧ (status = .failed → k = 1)
  else if n = 2 ^ 32 - 1 then status ≠ .failed
  else k ≤ n + 1 ∧ (status = .failed → n ≤ k)

/-- The call has ended. -/
def Ended {α : Type} : Call α → Prop
  | .ret _ => True
  | .fail _ => True
  | .call _ _ => False

/-- The name is that of a step of a workflow, and the number means what it says: it
is positive and an `i32`, or `u32::MAX`, or it is 0 and the policy of the run, or the
default one, has one attempt.  With a coefficient that is no number the policy is lost,
and only the 5 attempts of the default one are kept. -/
def Counted (s : Subject) : Prop :=
  s.name ≠ "" ∧ s.name ≠ StepRepository.lifecycleStepId .workflowStarted ∧
  if s.retry.backoffCoefficient.isFinite then
    0 < s.retry.attempts ∧ s.retry.attempts < 2 ^ 31 ∨ s.retry.attempts = 2 ^ 32 - 1 ∨
      s.retry.attempts = 0 ∧ (((readPolicy s.workflowPolicy).getD .default).maximumAttempts = 0 ∨
        ((readPolicy s.workflowPolicy).getD .default).maximumAttempts = 1)
  else s.retry.attempts = 4 ∨ s.retry.attempts = 5

/-! ## Programs of a caller that does not hold the run -/

section Idle
variable {s : Subject} {i k : Nat} {phase : Phase} {R : Option StepRow → Prop}
variable {ε α : Type}

theorem sat_noPoll {p : Prog Stmt Stmt.Result ε α} (hp : p.Uses NoPoll) :
    Sat (engine s) (Γ s) i (Idle s i) p (fun _ => Idle s i) fun _ => Idle s i :=
  Sat.of_uses hp stable_idle fun _ _ _ hq hm ha => hm.after ha.2 (not_handed_of_noPoll hq)

theorem noPoll_of_readsSteps {q : Stmt} (h : q.readsSteps = true) : NoPoll q := by
  cases q with
  | pollWorkflow _ _ _ _ _ => cases h
  | _ => trivial

theorem recordLifecycleEvent_noPoll (max : Nat) (utf8 : Bytes → Option String) (runId : Uuid)
    (stepKind : StepKind) (output : Option Bytes) :
    (StepRepository.recordLifecycleEvent max utf8 runId stepKind output).Uses NoPoll :=
  recordLifecycleEvent_uses noPoll_of_readsSteps _ _ _ (fun _ _ _ _ => trivial) fun _ _ _ _ =>
    ⟨trivial, trivial⟩

/-- The run fails for good. -/
theorem sat_failWorkflow {cfg : Config} (hnamed : s.Named cfg) (hagain : s.again k = false)
    (ns : String) (error : Option ErrorDetail) :
    Sat (engine s) (Γ s) i (At s i k .tried R)
      (WorkerService.failWorkflow cfg ⟨ns, cfg.uuidText s.runId, error⟩)
      (fun _ => Idle s i) fun _ => Idle s i := by
  unfold WorkerService.failWorkflow Config.uuid
  rw [hnamed.1]
  change Sat _ _ _ _ (WorkerService.validateWorkflowAction cfg s.runId >>= _) _ _
  refine Sat.bind ((sat_validateWorkflowAction cfg).mono (fun _ h => h) (fun _ _ h => h)
    fun _ _ h => h.elim) fun _ => ?_
  refine Sat.bind (P := fun _ => Idle s i)
    (Sat.mapError (X := fun _ _ => False) ?_ fun _ _ h => h.elim) fun _ => ?_
  · refine Sat.bind (P := fun _ => Idle s i)
      (sat_own (fun _ => stable_idle) fun e m hit hm ha hres => ?_) fun _ _ hm => hm
    have hm' : Idle s i (m.after store i e (.setFailed s.runId (WorkerService.errorDetail
        error).message)) := by
      refine hm.left ha (.stop hm.shows.life hagain) nofun rfl
        (f := RunRow.setFailed (WorkerService.errorDetail error).message e.began) (fun _ => rfl) ?_
      rw [store_exec_run, Stmt.exec_ok hres]
      rw [Stmt.exec_ok hres] at hres
      exact updateAt_ok (fun _ _ => rfl) hres
    exact ⟨hm'.1, hm'⟩
  · refine sat_noPoll (Prog.Uses.bind ?_ fun _ => trivial)
    exact (recordLifecycleEvent_noPoll _ _ _ _ _).attempt

end Idle

/-! ## Executions -/

section Executions
variable {V : Type} {s : Subject} {i k : Nat} {cfg : Config} {json : Json V}

/-- The holder runs the step. -/
theorem sat_perform (hnamed : s.Named cfg) (hname : s.name ≠ "") {codec : Codec V} {run : StepRun V}
    {e : Failure} (hrunId : run.runId = cfg.uuidText s.runId) (hstep : run.name = s.name)
    (hretry : run.retry = some s.retry.toProto) (houtcome : run.outcome = .error e)
    (he : s.Retryable e) (hbegin : run.beginLost = false) (hfail : run.failLost = false) :
    Sat (engine s) (Γ s) i (At s i k .taken fun _ => True) (run.perform cfg codec)
      (fun _ _ => False)
      (fun x m => x = .paused ∧ Idle s i m ∨ x = .own e.toKagzi ∧
        s.again (k + 1) = false ∧ At s i (k + 1) .tried (fun _ => True) m) := by
  unfold StepRun.perform
  rw [hbegin, hrunId, hstep, hretry]
  refine Sat.bind ((sat_beginStep hnamed run.ns).mapError fun _ _ h => h.elim) fun resp => ?_
  refine Sat.of_fact fun ⟨output, hresp⟩ => ?_
  subst hresp
  simp only [proceedTraced, if_neg hname, if_true, houtcome]
  unfold reportFailureTraced
  rw [hfail, hrunId]
  refine Sat.bind ((sat_failStep hnamed hname run.ns he).mapError fun _ _ h => h.elim) fun resp => ?_
  cases resp with
  | failStep scheduledRetry =>
      cases scheduledRetry with
      | true =>
          rintro m (⟨-, hm⟩ | ⟨h, -⟩)
          · exact .inl ⟨rfl, hm⟩
          · cases h
      | false =>
          rintro m (⟨h, -⟩ | ⟨-, hagain, hm⟩)
          · cases h
          · exact .inr ⟨rfl, hagain, hm⟩
  | _ => rintro m (⟨h, -⟩ | ⟨h, -⟩) <;> cases h

/-- The holder runs the code. -/
theorem sat_code (hnamed : s.Named cfg) (hname : s.name ≠ "") {codec : Codec V} {ctx : Context}
    {code : WorkflowCode V} (hcode : s.Fails ctx.defaultRetry code)
    (hctx : ctx.runId = cfg.uuidText s.runId) :
    Sat (engine s) (Γ s) i (At s i k .taken fun _ => True) (code.run cfg codec ctx)
      (fun _ _ => False)
      (fun x m => x = .context .paused ∧ Idle s i m ∨ (∃ e, x = .context (.own e)) ∧
        s.again (k + 1) = false ∧ At s i (k + 1) .tried (fun _ => True) m) := by
  obtain ⟨run, next, e, rfl, hstep, hretry, houtcome, he, hbegin, hfail, hnext⟩ := hcode
  have hperform : Sat (engine s) (Γ s) i (At s i k .taken fun _ => True)
      ((run.within ctx).perform cfg codec) (fun _ _ => False)
      (fun x m => x = .paused ∧ Idle s i m ∨ x = .own e.toKagzi ∧
        s.again (k + 1) = false ∧ At s i (k + 1) .tried (fun _ => True) m) :=
    sat_perform hnamed hname hctx hstep hretry houtcome he hbegin hfail
  refine Sat.bind (P := fun r m => ∃ x, r = .error x ∧ (x = .paused ∧ Idle s i m ∨
      x = .own e.toKagzi ∧ s.again (k + 1) = false ∧ At s i (k + 1) .tried (fun _ => True) m))
    (hperform.attempt (fun _ _ h => h.elim) fun x _ h => ⟨x, rfl, h⟩) fun r => ?_
  refine Sat.of_exists fun x => Sat.of_fact fun hr => ?_
  subst hr
  rw [hnext]
  rintro m (⟨rfl, hm⟩ | ⟨rfl, hagain, hm⟩)
  · exact .inl ⟨rfl, hm⟩
  · exact .inr ⟨⟨_, rfl⟩, hagain, hm⟩

/-- The holder executes the workflow. -/
theorem sat_execution (hnamed : s.Named cfg) (hname : s.name ≠ "") {run : Execution V}
    (hcode : s.Fails run.ctx.defaultRetry run.code) (hctx : run.ctx.runId = cfg.uuidText s.runId)
    (hlost : ∀ r, run.reportLost r = false) :
    Sat (engine s) (Γ s) i (At s i k .taken fun _ => True) (run.call cfg json)
      (fun _ => Idle s i) fun _ => Idle s i := by
  refine Sat.bind (P := fun r m => ∃ x, r = .error x ∧ (x = .context .paused ∧ Idle s i m ∨
      (∃ e, x = .context (.own e)) ∧ s.again (k + 1) = false ∧
        At s i (k + 1) .tried (fun _ => True) m))
    ((sat_code hnamed hname hcode hctx).attempt (fun _ _ h => h.elim) fun x _ h => ⟨x, rfl, h⟩)
    fun r => ?_
  refine Sat.of_exists fun x => Sat.of_fact fun hr => ?_
  subst hr
  unfold Execution.report
  by_cases hx : x = .context .paused
  · subst hx
    simp only [if_true]
    rintro m (⟨-, hm⟩ | ⟨⟨e, h⟩, -⟩)
    · exact hm
    · cases h
  · dsimp only
    rw [if_neg hx, hlost]
    have hreport : Sat (engine s) (Γ s) i
        (fun m => s.again (k + 1) = false ∧ At s i (k + 1) .tried (fun _ => True) m)
        (WorkerService.failWorkflow cfg ⟨run.ctx.ns, cfg.uuidText s.runId,
          some (x.toKagzi json.display).toDetail⟩) (fun _ => Idle s i) fun _ => Idle s i :=
      Sat.of_fact fun hagain => sat_failWorkflow hnamed hagain _ _
    rw [hctx]
    refine Sat.bind (P := fun _ => Idle s i) ?_ fun _ _ hm => hm
    refine (hreport.attempt (fun _ _ h => h) fun _ _ h => h).start ?_
    rintro m (⟨h, -⟩ | ⟨-, hm⟩)
    · exact absurd h hx
    · exact hm

end Executions

/-! ## Polls -/

section Polls
variable {V : Type} {s : Subject} {i : Nat} {cfg : Config} {json : Json V}

/-- The caller has taken the run, whose type is one of these. -/
def Took (s : Subject) (i : Nat) (types : List String) (m : Now) : Prop :=
  s.workflowType ∈ types ∧ ∃ k, At s i k .taken (fun _ => True) m

theorem stable_took (types : List String) : Stable (engine s) (Γ s) i (Took s i types) := by
  rintro j e q m hj ⟨htype, k, hm⟩ ha hΓ
  exact ⟨htype, k, stable_at j e q m hj hm ha hΓ⟩

/-- A poll takes a run that waits for its next execution. -/
theorem took_of_handed {e : Env} {m : Now} {ns taskQueue workerId : String} {types : List String}
    {secs : Int} {item : ClaimedWorkflow} (hliving : Living s m)
    (ha : Calm s i e (.pollWorkflow ns taskQueue workerId types secs) m)
    (htypes : types.isEmpty = false) (hid : item.runId = s.runId)
    (hres : ((Stmt.pollWorkflow ns taskQueue workerId types secs).exec e m.store.db).1 =
      .ok (some item)) :
    item.workflowType = s.workflowType ∧
      Took s i types (m.after store i e (.pollWorkflow ns taskQueue workerId types secs)) := by
  have hhanded : handed ⟨i, e, .pollWorkflow ns taskQueue workerId types secs,
      (store.exec e (.pollWorkflow ns taskQueue workerId types secs) m.store).1⟩ =
        some s.runId := by
    rw [store_exec_fst, hres, ← hid]
    rfl
  have hnot := ha.1 hhanded
  obtain ⟨r, hpicked, hrid, htype, hnew⟩ := claimed_of_pollWorkflow hres
  obtain ⟨hrun, hav⟩ := Db.run_of_picked hpicked
  rw [hrid, hid] at hrun hnew
  obtain ⟨k, phase, hshows⟩ := hliving
  have hrow := hshows.row
  rw [show m.store.run s.runId = some r from hrun, Option.map_some] at hrow
  simp only [columns, Option.some.injEq, Prod.mk.injEq] at hrow
  obtain ⟨hstatus, hns, hwtype, hpolicy⟩ := hrow
  have hclaim := Lifecycle.claimable_of_available hav
  obtain rfl : phase = .waiting := by
    cases phase with
    | waiting => rfl
    | taken => exact absurd ⟨r, hrun, hstatus⟩ hnot
    | tried => exact absurd ⟨r, hrun, hstatus⟩ hnot
    | ended =>
        rw [hstatus] at hclaim
        cases hclaim
  have hsteps : ((Stmt.pollWorkflow ns taskQueue workerId types secs).exec e m.store.db).2.steps =
      m.store.db.steps := by
    rw [Stmt.exec_ok hres]
    exact Stmt.sql_sparesSteps rfl e _
  have hin : s.workflowType ∈ types := by
    simp only [RunRow.available, Bool.and_eq_true, htypes, Bool.false_or] at hav
    rw [← hwtype]
    simpa using hav.1.2
  refine ⟨htype.trans hwtype, hin, k, ⟨if_pos hhanded, rfl, ?_, trivial⟩⟩
  refine ⟨.take hshows.life, ?_, ?_, ?_, ?_, fun _ => ⟨i, if_pos hhanded⟩⟩
  · rw [Moment.after_store, store_exec_run, hnew]
    simp only [Option.map_some, columns, RunRow.claim, hns, hwtype, hpolicy]
    rfl
  · rw [← hshows.next]
    simp only [Moment.after_store, store_exec_db, Db.nextAttempt, hsteps]
  · have hlatest := hshows.latest
    rw [Moment.after_store, store_exec_latest, Db.latest_congr hsteps]
    exact hlatest
  · have hpoll : ¬ Executes s ⟨i, e, .pollWorkflow ns taskQueue workerId types secs,
        (store.exec e (.pollWorkflow ns taskQueue workerId types secs) m.store).1⟩ := by
      intro h
      cases h
    rw [Moment.after_trace, executions_cons, if_neg hpoll, hshows.count]
    rfl

/-- A poll that hands out the run has taken it. -/
theorem sat_pollWorkflow (ns taskQueue workerId : String) {types : List String} (secs : Int)
    (htypes : types.isEmpty = false) :
    Sat (engine s) (Γ s) i (Idle s i) (stmt (.pollWorkflow ns taskQueue workerId types secs))
      (fun found m => (∃ item, found = some item ∧ item.runId = s.runId ∧
        item.workflowType = s.workflowType ∧ Took s i types m) ∨ Idle s i m)
      fun _ => Idle s i := by
  refine Sat.mapError (X := fun _ => Idle s i) ?_ fun _ _ h => h
  intro e m hm ha
  by_cases hhanded : handed ⟨i, e, .pollWorkflow ns taskQueue workerId types secs,
      (store.exec e (.pollWorkflow ns taskQueue workerId types secs) m.store).1⟩ = some s.runId
  · cases hres : ((Stmt.pollWorkflow ns taskQueue workerId types secs).exec e m.store.db).1 with
    | error x => rw [store_exec_fst, hres] at hhanded; cases hhanded
    | ok found =>
        rw [store_exec_fst, hres] at hhanded
        cases found with
        | none => cases hhanded
        | some item =>
            have hid : item.runId = s.runId := Option.some.inj hhanded
            obtain ⟨htype, htook⟩ := took_of_handed hm.1 ha.2 htypes hid hres
            refine ⟨fun _ => ?_, Took s i types, stable_took types, htook, ?_⟩
            · obtain ⟨-, k, hat⟩ := htook
              exact living_of_shows hat.shows
            · rw [Engine.restrict_exec, store_exec_fst, hres]
              exact fun m' hm' => .inl ⟨item, rfl, hid, htype, hm'⟩
  · obtain ⟨hΓ, hidle⟩ := hm.after ha.2 hhanded
    refine ⟨hΓ, Idle s i, stable_idle, hidle, ?_⟩
    cases ((engine s).exec e (.pollWorkflow ns taskQueue workerId types secs) m.store).1 with
    | ok found => exact fun m' hm' => .inr hm'
    | error x => exact fun m' hm' => hm'

/-- What a poll leaves: the caller has taken the run, and is answered with it, or the
caller does not hold it. -/
def Polled (s : Subject) (cfg : Config) (i : Nat) (types : List String) (resp : Response) (m : Now) :
    Prop :=
  (∃ input, resp = .pollTask (cfg.uuidText s.runId) s.workflowType input) ∧ Took s i types m ∨
    Idle s i m

theorem recordStarted_neutral (hname : s.name ≠ StepRepository.lifecycleStepId .workflowStarted)
    (max : Nat) (utf8 : Bytes → Option String) (runId : Uuid) :
    (StepRepository.recordLifecycleEvent max utf8 runId .workflowStarted none).Uses
      (Neutral s) := by
  refine (Prog.uses_ofExcept _).bind fun _ => ?_
  refine (uses_sql hname.symm).bind fun hit => ?_
  cases hit with
  | true => trivial
  | false =>
      refine (uses_sql ⟨rfl, rfl⟩).bind fun attemptId => ?_
      exact replaceLatest_uses ⟨hname.symm, hname.symm⟩

/-- What a poll does with the run. -/
theorem sat_dispatch (hname : s.name ≠ StepRepository.lifecycleStepId .workflowStarted)
    {types : List String} {item : ClaimedWorkflow} (hid : item.runId = s.runId)
    (htype : item.workflowType = s.workflowType) :
    Sat (engine s) (Γ s) i (Took s i types) (WorkerService.dispatch cfg item)
      (Polled s cfg i types) fun _ => Idle s i := by
  refine Sat.of_fact fun hin => Sat.of_exists fun k => ?_
  have hwake : (sql (.completePendingSleeps item.runId)).Uses (Neutral s) := by
    refine uses_sql ?_
    trivial
  refine Sat.bind (P := fun _ => At s i k .taken fun _ => True)
    ((sat_neutral_uses hwake).attempt (fun _ _ h => h) fun _ _ h => h) fun _ => ?_
  refine Sat.bind (P := fun _ => At s i k .taken fun _ => True)
    ((sat_neutral_uses (recordStarted_neutral hname _ _ _)).attempt (fun _ _ h => h)
      fun _ _ h => h) fun _ m hm => ?_
  exact .inl ⟨⟨_, by rw [hid, htype]⟩, hin, k, hm⟩

theorem dispatch_noPoll (item : ClaimedWorkflow) :
    (WorkerService.dispatch cfg item).Uses NoPoll := by
  refine Prog.Uses.bind (uses_sql trivial).attempt fun _ => ?_
  exact Prog.Uses.bind (recordLifecycleEvent_noPoll _ _ _ _ _).attempt fun _ => trivial

theorem sat_pollLoop (hname : s.name ≠ StepRepository.lifecycleStepId .workflowStarted)
    (req : PollTaskRequest) {types : List String} (htypes : types.isEmpty = false) (waits : Nat) :
    Sat (engine s) (Γ s) i (Idle s i) (WorkerService.pollLoop cfg req types waits)
      (Polled s cfg i types) fun _ => Idle s i := by
  -- what follows a poll that found a run
  have hfound : ∀ item, Sat (engine s) (Γ s) i
      (fun m => (∃ item', some item = some item' ∧ item'.runId = s.runId ∧
        item'.workflowType = s.workflowType ∧ Took s i types m) ∨ Idle s i m)
      (WorkerService.dispatch cfg item) (Polled s cfg i types) fun _ => Idle s i := by
    intro item
    refine Sat.or (Sat.of_exists fun item' => Sat.of_fact fun hitem => Sat.of_fact fun hid =>
      Sat.of_fact fun htype => ?_) ?_
    · obtain rfl := Option.some.inj hitem
      exact sat_dispatch hname hid htype
    · exact (sat_noPoll (dispatch_noPoll item)).mono (fun _ h => h) (fun _ _ h => .inr h)
        fun _ _ h => h
  induction waits with
  | zero =>
      refine Sat.bind (sat_pollWorkflow _ _ _ _ htypes) fun found => ?_
      cases found with
      | none => exact fun m hm => hm.elim (fun ⟨_, h, _⟩ => by cases h) .inr
      | some item => exact hfound item
  | succ waits ih =>
      refine Sat.bind (sat_pollWorkflow _ _ _ _ htypes) fun found => ?_
      cases found with
      | none => exact ih.start fun m hm => hm.elim (fun ⟨_, h, _⟩ => by cases h) fun h => h
      | some item => exact hfound item

theorem sat_pollTask (hname : s.name ≠ StepRepository.lifecycleStepId .workflowStarted)
    (req : PollTaskRequest) (waits : Nat) :
    Sat (engine s) (Γ s) i (Idle s i) (WorkerService.pollTask cfg req waits)
      (Polled s cfg i req.workflowTypes) fun _ => Idle s i := by
  refine sat_uuid_bind (fun workerId _ => ?_) fun _ _ h => h
  split
  next => exact fun _ h => h
  next =>
    refine sat_requireNonEmpty_bind ?_ fun _ _ h => h
    refine Sat.bind (sat_noPoll (uses_stmt trivial)) fun found => ?_
    refine sat_orFail_bind (fun worker _ => ?_) fun _ h => h
    split
    next => exact fun _ h => h
    next =>
      split
      next => exact fun _ h => h
      next =>
        split
        next => exact fun _ h => h
        next =>
          dsimp only
          split
          next => exact fun _ h => h
          next htypes =>
            refine (sat_pollLoop hname req (by simpa using htypes) waits).mono (fun _ h => h)
              (fun resp m h => ?_) fun _ _ h => h
            refine h.imp (fun h => ⟨h.1, ?_, h.2.2⟩) id
            have := (List.mem_filter.mp h.2.1).2
            simpa using this

/-- A poll of a worker, with the execution that follows. -/
theorem sat_poll (hnamed : s.Named cfg) (hempty : s.name ≠ "")
    (hname : s.name ≠ StepRepository.lifecycleStepId .workflowStarted) {run : PollCall V}
    (hworks : s.Works run) :
    Sat (engine s) (Γ s) i (Idle s i) (run.call cfg json) (fun _ => Idle s i)
      fun _ => Idle s i := by
  obtain ⟨hcode, hresponse, hreport⟩ := hworks
  have hpoll : Sat (engine s) (Γ s) i (Idle s i) (WorkerService.pollTask cfg run.request run.waits)
      (Polled s cfg i run.request.workflowTypes) fun _ => Idle s i :=
    sat_pollTask hname run.request run.waits
  refine Sat.bind (P := fun r m => (∃ input, r = .ok (.pollTask (cfg.uuidText s.runId)
      s.workflowType input)) ∧ Took s i run.request.workflowTypes m ∨ Idle s i m)
    (hpoll.attempt ?_ fun _ _ h => .inr h) fun r => ?_
  · rintro resp m (⟨⟨input, rfl⟩, hm⟩ | hm)
    · exact .inl ⟨⟨input, rfl⟩, hm⟩
    · exact .inr hm
  cases r with
  | error x => exact fun m hm => hm.elim (fun ⟨⟨_, h⟩, _⟩ => by cases h) fun h => h
  | ok resp =>
      dsimp only
      rw [hresponse]
      simp only [Bool.false_eq_true, if_false]
      refine Sat.or (Sat.of_fact fun ⟨input, h⟩ => Sat.of_fact fun htype =>
        Sat.of_exists fun k => ?_)
        (sat_noPoll (accept_uses (fromExecution_noPoll cfg) json run resp))
      obtain rfl := Except.ok.inj h
      simp only [PollCall.accept, if_neg hnamed.2]
      have hsome : (run.workflows.lookup s.workflowType).isSome = true := by
        obtain ⟨p, hp, heq⟩ := List.mem_map.mp htype
        exact List.lookup_isSome_iff.mpr ⟨p, hp, by simp [heq]⟩
      obtain ⟨handler, hhandler⟩ := Option.isSome_iff_exists.mp hsome
      rw [hhandler]
      exact sat_execution hnamed hempty (hcode handler hhandler _) rfl hreport

end Polls

/-! ## The result -/

section Result
variable {V : Type} {s : Subject} {cfg : Config} {json : Json V}

theorem serves (hnamed : s.Named cfg) (hempty : s.name ≠ "")
    (hname : s.name ≠ StepRepository.lifecycleStepId .workflowStarted) :
    Serves ((service cfg json s).restrict (Calm s)) (Γ s) (Living s) (fun i _ _ => Idle s i)
      fun i _ _ => Idle s i := by
  intro i traffic hacc
  refine ⟨Idle s i, stable_idle, fun m hm hnone => ⟨hm, fun hholds => ?_⟩, ?_⟩
  · obtain ⟨ran, hmem, hcaller, -⟩ := exists_of_taker hholds.1
    exact hnone ran hmem hcaller
  · cases traffic with
    | request req =>
        exact Sat.bind ((sat_noPoll (handle_noPoll cfg req hacc)).mapError fun _ _ h => h)
          fun _ _ hm => hm
    | poll run => exact sat_poll hnamed hempty hname hacc

end Result

/-! ## Two runs -/

/-- A run without a policy, and a step with a retry. -/
def subject (retry : Retry) : Subject := ⟨1, "ns", "type", none, "step", retry⟩

/-- The code of the step always fails. -/
def failing (retry : Retry) : WorkflowCode Bool :=
  .step ⟨"", "", "step", some retry.toProto, .error (.other "boom"), false, [], false⟩ fun
    | .ok v => .ok v
    | .error x => .err (.context x)

/-- A poll of its worker. -/
def worker (retry : Retry) : PollCall Bool :=
  ⟨"ns", "queue", "2", [("type", fun _ => failing retry)], none, 0, fun _ => false, fun _ => false⟩

def booleans : Json Bool := { Codec.bool with null := false, display := fun _ => "" }

/-- The store after the run was started and the worker registered. -/
def started : World :=
  (fireAll (server .sample fun _ => True) (.init (.empty 0) [])
    ([.start (.startWorkflow ⟨"job", "queue", "type", none, "ns", "", none⟩)] ++
      runs 0 6 (.quiet 0 1) ++ [.start (.register ⟨"ns", "queue", ["type"], "host", 7, ""⟩)] ++
      runs 1 1 (.quiet 0 2))).store

abbrev sampleService (retry : Retry) :
    Service Stmt Stmt.Result World Env (Traffic Bool) StepError Unit :=
  (service .sample booleans (subject retry)).restrict (Calm (subject retry))

/-- The worker polls. -/
def polled (retry : Retry) (p : State Bool) : State Bool :=
  ⟨p.toMoment, p.calls ++ [(.poll (worker retry), (worker retry).call .sample booleans)]⟩

/-- The first execution, until its retry is scheduled. -/
def tried (retry : Retry) : State Bool :=
  fireAll (sampleService retry) (polled retry (.init started []))
    (runs 0 7 (.quiet 0 3) ++ runs 0 11 (.quiet 0 4))

end Budget

end Kagzi
