import Kagzi.Server.Service
import Kagzi.Store.RunChange

/-!
# What a success means

A `CompleteWorkflow`, `FailWorkflow` or `TerminateWorkflow` that answers with a
status is meant to have put the run there, and a `FailStep` that answers that a
retry is scheduled is meant to have scheduled it.  Their updates are guarded by
the status `RUNNING`, but the handlers do not look at whether the update hit a
row: they answer with success for a run that is waiting, over, or not there at all
(`success_without_effect`).

When every such update finds the run running, or in the status it is to get, and the
delay of a retry is one that a double holds, a success means what it says
(`success_means_done_if_ready`).
-/

namespace Kagzi

open Atomic

namespace Success

/-- The server, for all requests. -/
abbrev service (cfg : Config) : Service Stmt Stmt.Result World Env Request Status Response :=
  server cfg fun _ => True

/-! ## The promise -/

/-- The update that moves the run to a status, and the status. -/
def goal : Stmt → Option (Uuid × WorkflowStatus)
  | .completeRun runId _ => some (runId, .completed)
  | .setFailed runId _ => some (runId, .failed)
  | .scheduleRetry runId _ => some (runId, .pending)
  | _ => none

/-- The statement is to move the run to the status, and it is there afterwards. -/
def Moved (runId : Uuid) (s : WorkflowStatus) (ran : Ran) (_ after : World) : Prop :=
  goal ran.query = some (runId, s) ∧ after.HasStatus runId s

/-- What a statement of `fail` read of the step it is about. -/
def retryInfo : Ran → Option StepRetryInfo
  | ⟨_, _, .getRetryInfo _ _, .ok info⟩ => info
  | _ => none

/-- The delay that a `FailStep` is to schedule: the one that is asked for, or that
of the policy it read. -/
def Delay (i : Nat) (params : FailStepParams) (trace : List Ran) (delayMs : Nat) : Prop :=
  match params.retryAfterMs with
  | some ms => delayMs = asU64 ms
  | none => ∃ ran ∈ trace, ran.caller = i ∧ ∃ info rand, retryInfo ran = some info ∧
      delayMs = asU64 ((info.retryPolicy.getD .default).calculateDelayMs info.attemptNumber rand)

/-- The statement is to schedule a retry of the run after the delay, and afterwards
the run waits for it, unless it was waiting before.  The delay counts from the time of the
transaction. -/
def Rescheduled (runId : Uuid) (delayMs : Nat) (ran : Ran) (before after : World) : Prop :=
  ran.query = .scheduleRetry runId delayMs ∧ ∃ r, after.run runId = some r ∧ r.status = .pending ∧
    (before.HasStatus runId .pending ∨
      r.availableAt = some (ran.env.began + delayMs * 1000))

/-- What the response of a request promises.  `w` is the store at the start. -/
def Promised (cfg : Config) (w : World) (i : Nat) (trace : List Ran) : Request → Response → Prop
  | .completeWorkflow req, .completeWorkflow s =>
      ∃ runId, cfg.parseUuid req.runId = some runId ∧ Did store w i (Moved runId s) trace
  | .failWorkflow req, .failWorkflow s =>
      ∃ runId, cfg.parseUuid req.runId = some runId ∧ Did store w i (Moved runId s) trace
  | .terminateWorkflow req, .terminateWorkflow _ s =>
      ∃ runId, cfg.parseUuid req.runId = some runId ∧ Did store w i (Moved runId s) trace
  | .failStep req, .failStep true =>
      ∃ runId delayMs, cfg.parseUuid req.runId = some runId ∧
        Delay i (WorkerService.failStepParams runId req) trace delayMs ∧
        Did store w i (Rescheduled runId delayMs) trace
  | _, _ => True

/-- Every response keeps what it promises. -/
def SuccessMeansDone (cfg : Config)
    (S : Service Stmt Stmt.Result World Env Request Status Response) : Prop :=
  ∀ (w : World) (p : ServerState) (i : Nat) (req : Request) (resp : Response),
    Steps S (.init w []) p → p.returned i = some (req, resp) →
      Promised cfg w i p.trace req resp

/-- The database adds the delay as it is.  It does so up to `72057594037927`
(`milliseconds_exact`). -/
def Exact (delayMs : Nat) : Prop := milliseconds delayMs = delayMs * 1000

instance : DecidablePred Exact := fun _ => inferInstanceAs (Decidable (_ = _))

/-- An update that is to move a run to a status finds it running, or there.  The delay of
a retry of a running run is exact. -/
def Ready : Condition Stmt Stmt.Result World Env := fun _ _ q m =>
  (∀ runId s, goal q = some (runId, s) →
    m.store.HasStatus runId .running ∨ m.store.HasStatus runId s) ∧
  ∀ runId delayMs, q = .scheduleRetry runId delayMs → m.store.HasStatus runId .running →
    Exact delayMs

/-! ## The updates -/

abbrev engine : Engine Stmt Stmt.Result World Env := store.restrict Ready

/-- Every statement is allowed. -/
abbrev free : Condition Stmt Stmt.Result World Env := fun _ _ _ _ => True

/-- An update that succeeds reaches its run if the run is running. -/
theorem exec_goal {q : Stmt} {e : Env} {w : World} {runId : Uuid} {s : WorkflowStatus}
    (hq : goal q = some (runId, s)) {a : q.Ans} (h : (store.exec e q w).1 = .ok a) :
    ∃ f : RunRow → RunRow, (∀ r, (f r).status = s) ∧
      (∀ target delayMs, q = .scheduleRetry target delayMs →
        ∀ r, (f r).availableAt = some (e.began + milliseconds delayMs)) ∧
      (store.exec e q w).2.run runId =
        (w.run runId).map fun r => if r.status = .running then f r else r := by
  rw [store_exec_fst] at h
  have hexec := Stmt.exec_ok h
  rw [hexec] at h
  rw [store_exec_run, hexec]
  cases q with
  | completeRun target output =>
      obtain ⟨rfl, rfl⟩ := Prod.mk.inj (Option.some.inj hq)
      exact ⟨RunRow.complete e.began, fun _ => rfl, nofun, completeRun_ok h⟩
  | setFailed target error =>
      obtain ⟨rfl, rfl⟩ := Prod.mk.inj (Option.some.inj hq)
      exact ⟨RunRow.setFailed error e.began, fun _ => rfl, nofun, updateAt_ok (fun _ _ => rfl) h⟩
  | scheduleRetry target delayMs =>
      obtain ⟨rfl, rfl⟩ := Prod.mk.inj (Option.some.inj hq)
      refine ⟨RunRow.retry delayMs e.began, fun _ => rfl, ?_, updateAt_ok (fun _ _ => rfl) h⟩
      rintro target' delayMs' heq r
      obtain ⟨-, rfl⟩ := Stmt.scheduleRetry.inj heq
      rfl
  | _ => cases hq

/-- An update that is ready leaves its run in the status it is to get. -/
theorem exec_ready {i : Nat} {e : Env} {q : Stmt} {m : Now} {runId : Uuid} {s : WorkflowStatus}
    (hq : goal q = some (runId, s)) (ha : engine.admits i e q m) {a : q.Ans}
    (h : (store.exec e q m.store).1 = .ok a) :
    ∃ r, (store.exec e q m.store).2.run runId = some r ∧ r.status = s ∧
      (m.store.HasStatus runId s ∨ ∀ target delayMs, q = .scheduleRetry target delayMs →
        r.availableAt = some (e.began + delayMs * 1000)) := by
  obtain ⟨f, hstatus, havailable, hrun⟩ := exec_goal hq h
  -- what becomes of a running run
  have hrunning : ∀ r, m.store.run runId = some r → r.status = .running →
      ∀ target delayMs, q = .scheduleRetry target delayMs →
        (f r).availableAt = some (e.began + delayMs * 1000) := by
    intro r hr hs target delayMs heq
    obtain rfl : target = runId := by
      subst heq
      exact (Prod.mk.inj (Option.some.inj hq)).1
    have hexact : milliseconds delayMs = delayMs * 1000 := ha.2.2 target delayMs heq ⟨r, hr, hs⟩
    rw [havailable target delayMs heq r, hexact]
  rcases ha.2.1 runId s hq with ⟨r, hr, hs⟩ | ⟨r, hr, hs⟩
  · rw [hr, Option.map_some, if_pos hs] at hrun
    exact ⟨f r, hrun, hstatus r, .inr (hrunning r hr hs)⟩
  · by_cases hs' : r.status = .running
    · rw [hr, Option.map_some, if_pos hs'] at hrun
      exact ⟨f r, hrun, hstatus r, .inr (hrunning r hr hs')⟩
    · rw [hr, Option.map_some, if_neg hs'] at hrun
      exact ⟨r, hrun, hs, .inl ⟨r, hr, hs⟩⟩

section Judgements
variable {cfg : Config} {w : World} {i : Nat} {runId : Uuid}

/-- The past is known throughout. -/
theorem replayed_kept (w : World) : Invariant engine (Replayed store w) :=
  replayed_invariant store engine rfl w

/-- A part of a handler that comes before the update. -/
theorem sat_before {ε α : Type} (c : Prog Stmt Stmt.Result ε α) :
    Sat engine free i (Replayed store w) c (fun _ => Replayed store w) (fun _ _ => True) :=
  (Sat.of_invariant (fun _ _ _ => trivial) (replayed_kept w).restrict).mono (fun _ h => h)
    (fun _ _ h => h) fun _ _ _ => trivial

/-- A part of a handler that is not looked into, after something has happened. -/
theorem sat_after {ε α : Type} {P : Ran → World → World → Prop} (c : Prog Stmt Stmt.Result ε α) :
    Sat engine free i (fun m => Did store w i P m.trace) c (fun _ m => Did store w i P m.trace)
      (fun _ m => Did store w i P m.trace) :=
  Sat.of_invariant (fun _ _ _ => trivial) did_invariant

/-- The update of a call. -/
theorem sat_goal {q : Stmt} {s : WorkflowStatus} (hq : goal q = some (runId, s)) :
    Sat engine free i (Replayed store w) (sql q)
      (fun _ m => Did store w i (Moved runId s) m.trace) (fun _ _ => True) := by
  refine (sat_sql_learn (fun _ _ _ _ => trivial) (replayed_kept w).restrict
    (fun _ => did_invariant) fun e m a hm ha hres => ?_).mono (fun _ h => h) (fun _ _ h => h.1)
    fun _ _ _ => trivial
  obtain ⟨r, hr, hs, -⟩ := exec_ready hq ha hres
  exact hm.did ⟨hq, r, hr, hs⟩

theorem sat_complete (max : Nat) (output : Bytes) :
    Sat engine free i (Replayed store w) (WorkflowRepository.complete max runId output)
      (fun _ m => Did store w i (Moved runId .completed) m.trace) (fun _ _ => True) := by
  refine Sat.bind (sat_before _) fun _ => ?_
  refine Sat.bind (sat_goal rfl) fun hit => ?_
  split
  next => exact fun _ h => h
  next => exact (sat_after _).mono (fun _ h => h) (fun _ _ h => h) fun _ _ _ => trivial

theorem sat_fail (error : String) :
    Sat engine free i (Replayed store w) (WorkflowRepository.fail runId error)
      (fun _ m => Did store w i (Moved runId .failed) m.trace) (fun _ _ => True) :=
  Sat.bind (sat_goal rfl) fun _ => fun _ h => h

/-- The end of a call that has moved its run. -/
theorem sat_record {s : WorkflowStatus} (max : Nat) (stepKind : StepKind) (output : Option Bytes)
    (resp : Response) :
    Sat engine free i (fun m => Did store w i (Moved runId s) m.trace)
      (do
        let _ ← (StepRepository.recordLifecycleEvent max cfg.utf8 runId stepKind output).attempt
        pure resp : Rpc Response)
      (fun a m => a = resp ∧ Did store w i (Moved runId s) m.trace) (fun _ _ => True) :=
  Sat.bind ((sat_after _).attempt (fun _ _ h => h) fun _ _ h => h) fun _ _ h => ⟨rfl, h⟩

/-- What a request that names the run promises of a response with a status. -/
theorem sat_completeWorkflow (req : CompleteWorkflowRequest) :
    Sat engine free i (Replayed store w) (WorkerService.completeWorkflow cfg req)
      (fun resp m => Promised cfg w i m.trace (.completeWorkflow req) resp) (fun _ _ => True) := by
  refine sat_uuid_bind (fun runId hid => ?_) fun _ _ _ => trivial
  refine Sat.bind (sat_before _) fun _ => ?_
  refine Sat.bind ((sat_complete cfg.payloadMaxSizeBytes _).mapError fun _ _ h => h) fun _ => ?_
  refine (sat_record _ _ _ _).mono (fun _ h => h) (fun a m h => ?_) fun _ _ h => h
  rw [h.1]
  exact ⟨runId, hid, h.2⟩

theorem sat_failWorkflow (req : FailWorkflowRequest) :
    Sat engine free i (Replayed store w) (WorkerService.failWorkflow cfg req)
      (fun resp m => Promised cfg w i m.trace (.failWorkflow req) resp) (fun _ _ => True) := by
  refine sat_uuid_bind (fun runId hid => ?_) fun _ _ _ => trivial
  refine Sat.bind (sat_before _) fun _ => ?_
  refine Sat.bind ((sat_fail _).mapError fun _ _ h => h) fun _ => ?_
  refine (sat_record _ _ _ _).mono (fun _ h => h) (fun a m h => ?_) fun _ _ h => h
  rw [h.1]
  exact ⟨runId, hid, h.2⟩

theorem sat_terminateWorkflow (req : TerminateWorkflowRequest) :
    Sat engine free i (Replayed store w) (WorkflowService.terminateWorkflow cfg req)
      (fun resp m => Promised cfg w i m.trace (.terminateWorkflow req) resp) (fun _ _ => True) := by
  refine sat_uuid_bind (fun runId hid => ?_) fun _ _ _ => trivial
  refine sat_requireNonEmpty_bind ?_ fun _ _ _ => trivial
  refine Sat.bind ((sat_fail _).mapError fun _ _ h => h) fun _ m h => ?_
  exact ⟨runId, hid, h⟩

/-! ## Retries of steps -/

theorem delay_invariant {params : FailStepParams} {delayMs : Nat} :
    Invariant engine fun m => Delay i params m.trace delayMs := by
  intro j e q m h _
  unfold Delay at h ⊢
  split
  next heq =>
    rw [heq] at h
    exact h
  next heq =>
    rw [heq] at h
    obtain ⟨ran, hran, h⟩ := h
    exact ⟨ran, List.mem_cons_of_mem _ hran, h⟩

/-- What `fail` of the store answers, when it answers that a retry is due. -/
def Due (i : Nat) (params : FailStepParams) (result : FailStepResult) (m : Now) : Prop :=
  result.scheduledRetry = true → ∃ delayMs, result.scheduleWorkflowRetryMs = some delayMs ∧
    Delay i params m.trace delayMs

theorem sat_failForGood (params : FailStepParams) :
    Sat engine free i (Replayed store w) (StepRepository.failForGood params)
      (fun result m => result.scheduledRetry = false ∧ Replayed store w m) (fun _ _ => True) := by
  refine Sat.bind (sat_before _) fun stepKind => Sat.bind (sat_before _) fun hit => ?_
  cases hit with
  | true => exact fun _ h => ⟨rfl, h⟩
  | false =>
      exact Sat.bind (sat_before _) fun _ => Sat.bind (sat_before _) fun _ _ h => ⟨rfl, h⟩

/-- What the call has read of the step. -/
def Read (i : Nat) (found : Option StepRetryInfo) (m : Now) : Prop :=
  ∀ info, found = some info → ∃ ran ∈ m.trace, ran.caller = i ∧ retryInfo ran = some info

theorem read_invariant {found : Option StepRetryInfo} : Invariant engine (Read i found) := by
  intro j e q m h _ info hinfo
  obtain ⟨ran, hran, h⟩ := h info hinfo
  exact ⟨ran, List.mem_cons_of_mem _ hran, h⟩

theorem sat_getRetryInfo (params : FailStepParams) :
    Sat engine free i (Replayed store w) (sql (.getRetryInfo params.runId params.stepId))
      (fun found m => Read i found m ∧ Replayed store w m) (fun _ _ => True) := by
  refine (sat_sql_learn (L := fun found m => Read i found m) (fun _ _ _ _ => trivial)
    (replayed_kept w).restrict (fun _ => read_invariant.restrict) ?_).mono (fun _ h => h)
    (fun _ _ h => h) fun _ _ _ => trivial
  intro e m found hm ha hres info hinfo
  have hread : retryInfo ⟨i, e, .getRetryInfo params.runId params.stepId,
      (engine.exec e (.getRetryInfo params.runId params.stepId) m.store).1⟩ = some info := by
    rw [hres, hinfo]
    rfl
  exact ⟨_, List.mem_cons_self .., rfl, hread⟩

theorem sat_retryDelayMs (params : FailStepParams) (info : StepRetryInfo) :
    Sat engine free i (fun m => Read i (some info) m ∧ Replayed store w m)
      (StepRepository.retryDelayMs params (info.retryPolicy.getD .default) info.attemptNumber)
      (fun ms m => Delay i params m.trace (asU64 ms) ∧ Replayed store w m) (fun _ _ => True) := by
  unfold StepRepository.retryDelayMs
  split
  next ms hms =>
    intro m h
    exact ⟨by simp [Delay, hms], h.2⟩
  next hms =>
    have hkeep : Invariant engine fun m => Read i (some info) m ∧ Replayed store w m :=
      fun j e q m h ha => ⟨read_invariant j e q m h.1 ha, replayed_kept w j e q m h.2 ha⟩
    refine Sat.bind ((Sat.of_invariant (fun _ _ _ => trivial) hkeep.restrict).mono (fun _ h => h)
      (fun _ _ h => h) fun _ _ _ => trivial) fun rand m h => ?_
    obtain ⟨ran, hran, hcaller, hread⟩ := h.1 info rfl
    simp only [Delay, hms]
    exact ⟨⟨ran, hran, hcaller, info, rand, hread, rfl⟩, h.2⟩

theorem sat_stepFail (params : FailStepParams) :
    Sat engine free i (Replayed store w) (StepRepository.fail params)
      (fun result m => Due i params result m ∧ Replayed store w m) (fun _ _ => True) := by
  have hgood : Sat engine free i (Replayed store w) (StepRepository.failForGood params)
      (fun result m => Due i params result m ∧ Replayed store w m) (fun _ _ => True) :=
    (sat_failForGood params).mono (fun _ h => h)
      (fun result m h => ⟨fun hs => absurd hs (by simp [h.1]), h.2⟩) fun _ _ h => h
  refine Sat.bind (sat_getRetryInfo params) fun found => ?_
  cases found with
  | none => exact hgood.start fun _ h => h.2
  | some info =>
      dsimp only
      split
      next =>
        refine Sat.bind (sat_retryDelayMs params info) fun ms => ?_
        have hkeep : Invariant engine fun m =>
            Delay i params m.trace (asU64 ms) ∧ Replayed store w m :=
          fun j e q m h ha => ⟨delay_invariant j e q m h.1 ha, replayed_kept w j e q m h.2 ha⟩
        refine Sat.bind ((Sat.of_invariant (fun _ _ _ => trivial) hkeep.restrict).mono
          (fun _ h => h) (fun _ _ h => h) fun _ _ _ => trivial) fun _ m h => ?_
        exact ⟨fun _ => ⟨asU64 ms, rfl, h.1⟩, h.2⟩
      next => exact hgood.start fun _ h => h.2

/-- The update of a `FailStep`. -/
theorem sat_scheduleRetry (delayMs : Nat) :
    Sat engine free i (Replayed store w) (WorkflowRepository.scheduleRetry runId delayMs)
      (fun _ m => Did store w i (Rescheduled runId delayMs) m.trace) (fun _ _ => True) := by
  refine Sat.bind ((sat_sql_learn (q := .scheduleRetry runId delayMs) (fun _ _ _ _ => trivial)
    (replayed_kept w).restrict (fun _ => did_invariant) fun e m a hm ha hres => ?_).mono
    (fun _ h => h) (fun _ _ h => h.1) fun _ _ _ => trivial) fun _ => fun _ h => h
  have hgoal : goal (.scheduleRetry runId delayMs) = some (runId, .pending) := rfl
  obtain ⟨r, hr, hs, hcase⟩ := exec_ready hgoal ha hres
  exact hm.did ⟨rfl, r, hr, hs, hcase.imp id fun h => h runId delayMs rfl⟩

theorem sat_failStep (req : FailStepRequest) :
    Sat engine free i (Replayed store w) (WorkerService.failStep cfg req)
      (fun resp m => Promised cfg w i m.trace (.failStep req) resp) (fun _ _ => True) := by
  refine sat_uuid_bind (fun runId hid => ?_) fun _ _ _ => trivial
  refine sat_requireNonEmpty_bind ?_ fun _ _ _ => trivial
  refine Sat.bind ((sat_stepFail _).mapError fun _ _ h => h) fun result => ?_
  obtain ⟨scheduledRetry, retryMs⟩ := result
  cases retryMs with
  | none =>
      refine fun m h => ?_
      cases scheduledRetry with
      | false => trivial
      | true =>
          obtain ⟨delayMs, hms, -⟩ := h.1 rfl
          cases hms
  | some delayMs =>
      have hdelay : Invariant engine fun m => scheduledRetry = true →
          Delay i (WorkerService.failStepParams runId req) m.trace delayMs :=
        fun j e q m h ha hs => delay_invariant j e q m (h hs) ha
      have hretry : Sat engine free i (Replayed store w)
          (WorkflowRepository.scheduleRetry runId delayMs)
          (fun _ m => Did store w i (Rescheduled runId delayMs) m.trace) (fun _ _ => True) :=
        sat_scheduleRetry delayMs
      refine Sat.bind (((hretry.frame hdelay.restrict).mapError fun _ _ _ => trivial).start
        fun m h => ⟨h.2, fun hs => ?_⟩) fun _ m h => ?_
      · obtain ⟨delayMs', hms, hd⟩ := h.1 hs
        rwa [Option.some.inj hms]
      · cases scheduledRetry with
        | false => trivial
        | true => exact ⟨runId, delayMs, hid, h.2 rfl, h.1⟩

end Judgements

/-! ## The result -/

theorem serves (cfg : Config) (w : World) :
    Serves ((service cfg).restrict Ready) free (Replayed store w)
      (fun i req resp m => Promised cfg w i m.trace req resp) (fun _ _ _ _ => True) := by
  intro i req _
  refine ⟨Replayed store w, (replayed_kept w).restrict.stable, fun _ h _ => h, ?_⟩
  have hother : (∀ resp trace, Promised cfg w i trace req resp) →
      Sat engine free i (Replayed store w) (handle cfg req)
        (fun resp m => Promised cfg w i m.trace req resp) (fun _ _ => True) :=
    fun h => (sat_before _).mono (fun _ h => h) (fun resp m _ => h resp m.trace) fun _ _ h => h
  cases req with
  | completeWorkflow req => exact sat_completeWorkflow req
  | failWorkflow req => exact sat_failWorkflow req
  | terminateWorkflow req => exact sat_terminateWorkflow req
  | failStep req => exact sat_failStep req
  | _ => exact hother fun _ _ => trivial

/-- A success means what it says in the runs in which every such update finds its
run running, or in the status it is to get, and adds an exact delay. -/
theorem success_means_done_if_ready (cfg : Config) :
    SuccessMeansDone cfg ((service cfg).restrict Ready) := by
  intro w p i req resp h hreturned
  have hinv : Invariant (engine.restrict free) (Replayed store w) := (replayed_kept w).restrict
  have hstart : Replayed store w ⟨w, []⟩ := rfl
  obtain ⟨-, hsound⟩ := h.sound (serves cfg w) hinv hstart (sound_nil w)
  exact hsound.result (Pool.calls_of_returned hreturned)

/-! ## A retry that is scheduled -/

section Decisions
variable {i : Nat} {e : Env} {q : Stmt} {m : Now}

/-- The retry that the statement is to schedule. -/
def retryOf : Stmt → Option (Uuid × Nat)
  | .scheduleRetry runId delayMs => some (runId, delayMs)
  | _ => none

theorem retryOf_iff {runId : Uuid} {delayMs : Nat} :
    retryOf q = some (runId, delayMs) ↔ q = .scheduleRetry runId delayMs := by
  cases q <;> simp [retryOf]

theorem ready_iff : Ready i e q m ↔
    ((goal q).all fun g => decide (m.store.HasStatus g.1 .running ∨ m.store.HasStatus g.1 g.2)) = true ∧
      ((retryOf q).all fun g => decide (m.store.HasStatus g.1 .running → Exact g.2)) = true := by
  refine and_congr ?_ ?_
  · rcases goal q with _ | ⟨runId, s⟩ <;> simp
  · simp only [← retryOf_iff]
    rcases retryOf q with _ | ⟨runId, delayMs⟩
    · simp
    · simpa using imp_iff_not_or

instance : Decidable (Ready i e q m) := decidable_of_iff _ ready_iff.symm

end Decisions

/-- A worker begins a step of its run, and reports that it has failed. -/
def failedOnce : ServerState :=
  fireAll ((service .sample).restrict Ready) (.init (.empty 0) []) <|
    [.start (.startWorkflow ⟨"job", "queue", "type", none, "ns", "", none⟩)] ++
      runs 0 6 (.quiet 0 1) ++
      [.start (.register ⟨"ns", "queue", ["type"], "host", 7, ""⟩)] ++ runs 1 1 (.quiet 0 2) ++
      [.start (.pollTask ⟨"queue", "2", "ns", ["type"]⟩ 0)] ++ runs 2 7 (.quiet 0 3) ++
      [.start (.beginStep ⟨"ns", "1", "step", 1, none, none⟩)] ++ runs 3 7 (.quiet 1 4) ++
      [.start (.failStep ⟨"ns", "1", "step", none⟩)] ++ runs 4 4 (.quiet 2 5)

/-- The answer that a retry is scheduled is kept. -/
theorem success_means_done_if_ready_failedOnce :
    failedOnce.store.HasStatus 1 .pending ∧
      Promised .sample (.empty 0) 4 failedOnce.trace (.failStep ⟨"ns", "1", "step", none⟩)
        (.failStep true) := by
  have hsteps : Steps ((service .sample).restrict Ready) (.init (.empty 0) []) failedOnce :=
    AllEnabled.steps (by decide +kernel)
  exact ⟨by decide +kernel,
    success_means_done_if_ready .sample _ _ 4 _ _ hsteps (by decide +kernel)⟩

/-! ## A success without effect -/

/-- A run that does not exist is terminated. -/
def terminateMissing : List (Action Env Request) :=
  [.start (.terminateWorkflow ⟨"1", "ns", "stop"⟩)] ++ runs 0 1 (.quiet 0 1)

/-- The request answers that the run is terminated and failed. -/
theorem success_without_effect : ¬ SuccessMeansDone .sample (service .sample) := by
  intro hdone
  let p := fireAll (service .sample) (.init (.empty 0) []) terminateMissing
  have h : Steps (service .sample) (.init (.empty 0) []) p := AllEnabled.steps (by decide +kernel)
  have hreturned : p.returned 0
      = some (.terminateWorkflow ⟨"1", "ns", "stop"⟩, .terminateWorkflow true .failed) := by
    decide +kernel
  obtain ⟨runId, hid, later, ran, earlier, htrace, -, -, r, hr, -⟩ :=
    hdone _ p 0 _ _ h hreturned
  have hlater : later = [] := by
    have hlen : p.trace.length = 1 := by decide +kernel
    rw [htrace, List.length_append, List.length_cons] at hlen
    exact List.length_eq_zero_iff.mp (by omega)
  have hnone : (store.replay (.empty 0) p.trace).run 1 = none := by decide +kernel
  obtain rfl : 1 = runId := Option.some.inj hid
  rw [htrace, hlater, List.nil_append, hr] at hnone
  cases hnone

end Success

end Kagzi
