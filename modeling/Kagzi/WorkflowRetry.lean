import Kagzi.Server.Footprint
import Kagzi.Store.RunChange

/-!
# Retries of workflows

A run can be started with a retry policy.  When it fails with retries left, it is
meant to be put back to `PENDING` with a backoff, and to become `FAILED` when the
attempts are exhausted.  But `fail_workflow` does not look at the policy: of its
statements only `set_failed_tx` changes a run, and that makes it `FAILED` at once,
whatever its policy and its attempts are (`fails_with_retries_left`).
-/

namespace Kagzi

open Atomic

namespace WorkflowRetry

/-- The server, for all requests. -/
abbrev service (cfg : Config) : Service Stmt Stmt.Result World Env Request Status Response :=
  server cfg fun _ => True

/-- The run has a policy of more than one attempt, and has attempts left.  A poll
that takes the run counts one. -/
def RetriesLeft (r : RunRow) : Prop :=
  ∃ policy, r.retryPolicy = some policy ∧ 1 < policy.maximumAttempts ∧
    r.attempts < policy.maximumAttempts

/-- The statement ends an execution of the run, which has retries left. -/
def Ends (runId : Uuid) (before after : World) : Prop :=
  ∃ r, before.run runId = some r ∧ r.status = .running ∧ RetriesLeft r ∧
    ¬ after.HasStatus runId .running

/-- The run waits for its next execution. -/
def BacksOff (runId : Uuid) (now : Int) (after : World) : Prop :=
  ∃ r t, after.run runId = some r ∧ r.status = .pending ∧ r.availableAt = some t ∧ now < t

/-- A `FailWorkflow` with a retryable error that ends an execution of a run with
retries left makes the run wait for its next execution. -/
def Retried (cfg : Config) (S : Service Stmt Stmt.Result World Env Request Status Response) :
    Prop :=
  ∀ (w : World) (p : ServerState) (i : Nat) (req : FailWorkflowRequest) (resp : Response),
    Steps S (.init w []) p → p.returned i = some (.failWorkflow req, resp) →
      (WorkerService.errorDetail req.error).nonRetryable = false →
      ∀ runId, cfg.parseUuid req.runId = some runId →
        ¬ Did store w i (fun ran before after =>
          Ends runId before after ∧ ¬ BacksOff runId ran.env.now after) p.trace

/-- The statement is the update of a failure.  If it finds the run running, the run
is `FAILED` afterwards, with the retries it had. -/
def Fails (runId : Uuid) (ran : Ran) (before after : World) : Prop :=
  (∃ error, ran.query = .setFailed runId error) ∧
    ∀ r, before.run runId = some r → r.status = .running → ∃ r', after.run runId = some r' ∧
      r'.status = .failed ∧ r'.attempts = r.attempts ∧ r'.retryPolicy = r.retryPolicy

/-- A `FailWorkflow` that returns has failed its run, if it was running, and has
made no run wait. -/
def FailsAtOnce (cfg : Config)
    (S : Service Stmt Stmt.Result World Env Request Status Response) : Prop :=
  ∀ (w : World) (p : ServerState) (i : Nat) (req : FailWorkflowRequest) (resp : Response),
    Steps S (.init w []) p → p.returned i = some (.failWorkflow req, resp) →
      ∃ runId, cfg.parseUuid req.runId = some runId ∧ Did store w i (Fails runId) p.trace ∧
        ∀ other, ¬ Did store w i (fun ran before after =>
          before.HasStatus other .running ∧ BacksOff other ran.env.now after) p.trace

/-! ## The update -/

/-- Every statement is allowed. -/
abbrev free : Condition Stmt Stmt.Result World Env := fun _ _ _ _ => True

section Judgements
variable {cfg : Config} {w : World} {i : Nat} {runId : Uuid}

/-- The past is known throughout. -/
theorem replayed_kept (w : World) : Invariant store (Replayed store w) :=
  replayed_invariant store store rfl w

theorem sat_before {ε α : Type} (c : Prog Stmt Stmt.Result ε α) :
    Sat store free i (Replayed store w) c (fun _ => Replayed store w) (fun _ _ => True) :=
  (Sat.of_invariant (fun _ _ _ => trivial) (replayed_kept w).restrict).mono (fun _ h => h)
    (fun _ _ h => h) fun _ _ _ => trivial

theorem sat_fail (error : String) :
    Sat store free i (Replayed store w) (WorkflowRepository.fail runId error)
      (fun _ m => Did store w i (Fails runId) m.trace) (fun _ _ => True) := by
  refine Sat.bind (P := fun _ m => Did store w i (Fails runId) m.trace)
    ((sat_sql_learn (fun _ _ _ _ => trivial) (replayed_kept w).restrict
      (fun _ => did_invariant) fun e m hit hm _ hres => ?_).mono (fun _ h => h) (fun _ _ h => h.1)
      fun _ _ _ => trivial) fun _ _ h => h
  refine hm.did ⟨⟨error, rfl⟩, fun r hr hs => ⟨r.setFailed error e.began, ?_, rfl, rfl, rfl⟩⟩
  have hstmt : ((Stmt.setFailed runId error).exec e m.store.db).1 = .ok hit := hres
  have hsql := Stmt.exec_ok hstmt
  rw [hsql] at hstmt
  have hrun := updateAt_ok (f := RunRow.setFailed error) (fun _ _ => rfl) hstmt
  rw [show m.store.db.run runId = some r from hr, Option.map_some, if_pos hs] at hrun
  rw [store_exec_run, hsql]
  exact hrun

theorem sat_failWorkflow (req : FailWorkflowRequest) :
    Sat store free i (Replayed store w) (WorkerService.failWorkflow cfg req)
      (fun _ m => ∃ runId, cfg.parseUuid req.runId = some runId ∧
        Did store w i (Fails runId) m.trace) (fun _ _ => True) := by
  refine sat_uuid_bind (fun runId hid => ?_) fun _ _ _ => trivial
  refine Sat.bind (sat_before _) fun _ => ?_
  refine Sat.bind ((sat_fail _).mapError fun _ _ h => h) fun _ => ?_
  have hrest : ∀ {ε α : Type} (c : Prog Stmt Stmt.Result ε α),
      Sat store free i (fun m => Did store w i (Fails runId) m.trace) c
        (fun _ m => Did store w i (Fails runId) m.trace)
        (fun _ m => Did store w i (Fails runId) m.trace) :=
    fun c => Sat.of_invariant (fun _ _ _ => trivial) did_invariant
  exact Sat.bind ((hrest _).attempt (fun _ _ h => h) fun _ _ h => h) fun _ m h => ⟨runId, hid, h⟩

end Judgements

/-- What a `FailWorkflow` may do takes no run from `RUNNING` to `PENDING`. -/
theorem exec_failWorkflow {cfg : Config} {req : FailWorkflowRequest} {e : Env} {q : Stmt}
    {db : Db} {runId : Uuid} {r r' : RunRow} (hq : (Request.failWorkflow req).may cfg q)
    (hr : db.run runId = some r) (hs : r.status = .running)
    (hr' : (q.exec e db).2.run runId = some r') : r'.status ≠ .pending := by
  have hc := q.exec_run e db runId
  rw [hr, hr'] at hc
  cases hc with
  | same => simp [hs]
  | claimed _ => obtain ⟨⟨_, _, h, -⟩, -⟩ := hq; cases h
  | extended _ _ => obtain ⟨⟨_, h, -⟩, -⟩ := hq; cases h
  | cancelledRunning _ => simp [RunRow.cancel]
  | cancelledWaiting _ => simp [RunRow.cancel]
  | completed _ => simp [RunRow.complete]
  | failed _ => simp [RunRow.setFailed]
  | slept _ => simp [RunRow.sleep]
  | retried _ => obtain ⟨⟨_, h⟩, -⟩ := hq; cases h
  | nextFired => simp [RunRow.nextFire, hs]
  | overwritten => cases hq.1
  | orphaned _ _ => simp [RunRow.orphan, hs]

/-! ## The result -/

theorem serves (cfg : Config) (w : World) :
    Serves (service cfg) free (Replayed store w)
      (fun i req _ m => ∀ r, req = .failWorkflow r → ∃ runId, cfg.parseUuid r.runId = some runId ∧
        Did store w i (Fails runId) m.trace) (fun _ _ _ _ => True) := by
  intro i req _
  refine ⟨Replayed store w, (replayed_kept w).restrict.stable, fun _ h _ => h, ?_⟩
  by_cases h : ∃ r, req = .failWorkflow r
  · obtain ⟨r, rfl⟩ := h
    refine (sat_failWorkflow r).mono (fun _ h => h) (fun _ m hm r' heq => ?_) fun _ _ h => h
    obtain rfl := Request.failWorkflow.inj heq
    exact hm
  · exact (sat_before _).mono (fun _ h => h) (fun _ _ _ r heq => absurd ⟨r, heq⟩ h) fun _ _ h => h

/-- A run with retries left fails at once. -/
theorem fails_with_retries_left (cfg : Config) : FailsAtOnce cfg (service cfg) := by
  intro w p i req resp h hreturned
  have hget := Pool.calls_of_returned hreturned
  have hinv : Invariant ((service cfg).toEngine.restrict free) (Replayed store w) :=
    (replayed_kept w).restrict
  have hstart : Replayed store w ⟨w, []⟩ := rfl
  obtain ⟨-, hsound⟩ := h.sound (serves cfg w) hinv hstart (sound_nil w)
  obtain ⟨runId, hid, hdid⟩ := hsound.result hget req rfl
  refine ⟨runId, hid, hdid, ?_⟩
  rintro other ⟨later, ran, earlier, htrace, rfl, ⟨r, hr, hs⟩, r', t, hr', hs', -, -⟩
  have hasked : p.Asked (Request.may cfg) :=
    h.asked (fun req _ => handle_uses cfg req) (fun _ _ _ hc => by cases hc) (by simp [Pool.Asked, Pool.init])
  obtain ⟨req', c, hget', hq⟩ := hasked ran (by simp [htrace])
  rw [hget] at hget'
  obtain ⟨rfl, -⟩ := Prod.mk.inj (Option.some.inj hget')
  exact exec_failWorkflow hq hr hs hr' hs'

/-! ## A run that fails at its first attempt -/

/-- A policy of three attempts. -/
def threeAttempts : ProtoPolicy := ⟨3, 1000, .finite 2, 60000, []⟩

/-- An error that may be retried. -/
def retryable : ErrorDetail := errDetail .internal "boom" false 0 "" ""

/-- A worker takes a run that may be attempted three times, and reports that it
failed with a retryable error. -/
def failOnce : List (Action Env Request) :=
  [.start (.startWorkflow ⟨"job", "queue", "type", none, "ns", "", some threeAttempts⟩)] ++
    runs 0 6 (.quiet 0 1) ++
  [.start (.register ⟨"ns", "queue", ["type"], "", 0, ""⟩)] ++ runs 1 1 (.quiet 0 2) ++
  [.start (.pollTask ⟨"queue", "2", "ns", ["type"]⟩ 0)] ++ runs 2 7 (.quiet 1 3) ++
  [.start (.failWorkflow ⟨"ns", "1", some retryable⟩)] ++ runs 3 7 (.quiet 2 4)

/-- The state after it. -/
def failed : ServerState := fireAll (service .sample) (.init (.empty 0) []) failOnce

theorem failed_steps : Steps (service .sample) (.init (.empty 0) []) failed :=
  AllEnabled.steps (by decide +kernel)

theorem failed_returned :
    failed.returned 3 = some (.failWorkflow ⟨"ns", "1", some retryable⟩, .failWorkflow .failed) := by
  decide +kernel

theorem fails_with_retries_left_once :
    (failed.store.run 1).map (fun r => (r.status, r.attempts)) = some (.failed, 1) ∧
      Did store (.empty 0) 3 (Fails 1) failed.trace := by
  obtain ⟨runId, hid, hdid, -⟩ :=
    fails_with_retries_left .sample _ failed 3 _ _ failed_steps failed_returned
  have hparse : Config.sample.parseUuid "1" = some 1 := by decide +kernel
  obtain rfl : 1 = runId := Option.some.inj (hparse.symm.trans hid)
  exact ⟨by decide +kernel, hdid⟩

/-- The row of the run while it is executed. -/
def executed : RunRow where
  runId := 1
  ns := "ns"
  externalId := "job"
  taskQueue := "queue"
  workflowType := "type"
  status := .running
  lockedBy := some "2"
  attempts := 1
  createdAt := some 0
  startedAt := some (seconds 1)
  finishedAt := none
  retryPolicy := some threeAttempts.toValue
  version := some "1"
  error := none
  availableAt := some (seconds 61)
  cronExpr := none
  scheduleId := none
  lastFiredAt := none
  maxCatchup := 50

theorem failed_length : 4 < failed.trace.length := by decide +kernel

/-- The update of the `FailWorkflow`, the third of its seven statements. -/
def failedBy : Ran := failed.trace.get ⟨4, failed_length⟩

/-- The statements before it. -/
def executing : List Ran := failed.trace.drop 5

theorem failed_trace : failed.trace = failed.trace.take 4 ++ failedBy :: executing := by
  unfold failedBy executing
  rw [List.get_eq_getElem, List.getElem_cons_drop, List.take_append_drop]

/-- The run is failed by the update. -/
theorem failed_run : ∀ r, (store.replay (.empty 0) (failedBy :: executing)).run 1 = some r →
    r.status = .failed := by
  intro r hr
  have hstatus : ((store.replay (.empty 0) (failedBy :: executing)).run 1).map RunRow.status
      = some .failed := by decide +kernel
  rw [hr] at hstatus
  exact Option.some.inj hstatus

/-- The run fails at its first attempt of three. -/
theorem not_retried : ¬ Retried .sample (service .sample) := by
  intro hretried
  refine hretried _ failed 3 _ _ failed_steps failed_returned rfl 1 rfl ⟨_, _, _, failed_trace, ?_, ?_, ?_⟩
  · decide +kernel
  · refine ⟨executed, by decide +kernel, rfl, ⟨threeAttempts.toValue, rfl, by decide, by decide⟩, ?_⟩
    rintro ⟨r, hr, hs⟩
    rw [failed_run r hr] at hs
    cases hs
  · rintro ⟨r, t, hr, hs, -⟩
    rw [failed_run r hr] at hs
    cases hs

end WorkflowRetry

end Kagzi
