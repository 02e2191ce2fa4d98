import Kagzi.Server.Footprint
import Kagzi.Store.RunChange

/-!
# Who releases a claim

A poll writes the worker into `locked_by`, but the updates that end a claim look
at the status of the run only, and the requests that lead to them carry neither
the worker nor the claim they belong to.  So a message of an execution whose
lease has expired ends the claim of the worker that holds the run now
(`not_fenced`).  What does hold is a list of the causes for which a run can
leave a claim (`release_has_cause`).
-/

namespace Kagzi

open Atomic

namespace Fencing

/-- The server, for all requests. -/
abbrev service (cfg : Config) : Service Stmt Stmt.Result World Env Request Status Response :=
  server cfg fun _ => True

/-- The run is running, and locked by the worker. -/
def Claimed (runId : Uuid) (workerId : String) (w : World) : Prop :=
  ∃ r, w.run runId = some r ∧ r.status = .running ∧ r.lockedBy = some workerId

/-- The request is a message of an execution that ends its claim. -/
def endsExecution : Request → Bool
  | .failStep _ => true
  | .sleep _ => true
  | .failWorkflow _ => true
  | .completeWorkflow _ => true
  | _ => false

/-- The request stops a run from outside. -/
def stopsRun : Request → Bool
  | .cancelWorkflow _ => true
  | .terminateWorkflow _ => true
  | _ => false

/-- Why a request may take a run out of a claim at the time `now`. -/
inductive Cause (cfg : Config) (runId : Uuid) (r : RunRow) (now : Int) : Request → Prop where
  /-- Some execution ends. -/
  | execution {req : Request} :
      endsExecution req = true → req.target cfg = some runId → Cause cfg runId r now req
  | stopped {req : Request} :
      stopsRun req = true → req.target cfg = some runId → Cause cfg runId r now req
  /-- The lease has expired. -/
  | expired {req : PollTaskRequest} {waits : Nat} :
      r.due now = true → Cause cfg runId r now (.pollTask req waits)
  /-- The run is taken for a schedule. -/
  | scheduleCreated {req : CreateWorkflowScheduleRequest} :
      Cause cfg runId r now (.createWorkflowSchedule req)
  | scheduleManaged {req : Request} :
      req.managesSchedules = true → req.target cfg = some runId → Cause cfg runId r now req

/-- A statement that takes a run out of a claim has a cause in the request that
makes it. -/
theorem cause_of_release {cfg : Config} {req : Request} {e : Env} {q : Stmt} {db : Db}
    (hq : req.may cfg q) {runId : Uuid} {workerId : String} {r : RunRow}
    (hr : db.run runId = some r) (hs : r.status = .running) (hl : r.lockedBy = some workerId)
    (hrel : ¬ ∃ r', (q.exec e db).2.run runId = some r' ∧ r'.status = .running ∧
      r'.lockedBy = some workerId) : Cause cfg runId r e.now req := by
  have hc := q.exec_run e db runId
  have hid : r.runId = runId := Db.runId_of_run hr
  rw [hr] at hc
  generalize (q.exec e db).2.run runId = new at hc hrel
  cases hc with
  | same => exact absurd ⟨r, rfl, hs, hl⟩ hrel
  | claimed hav =>
      obtain ⟨⟨req', waits, rfl, -⟩, -⟩ := hq
      simp only [RunRow.available, Bool.and_eq_true] at hav
      exact .expired hav.1.1.2
  | extended _ _ => exact absurd ⟨_, rfl, hs, hl⟩ hrel
  | cancelledRunning _ =>
      obtain ⟨⟨req', rfl⟩, ht⟩ := hq
      exact .stopped rfl (hid ▸ ht)
  | cancelledWaiting h =>
      rw [hs] at h
      rcases h with h | h <;> cases h
  | completed _ =>
      obtain ⟨⟨req', rfl⟩, ht⟩ := hq
      exact .execution rfl (hid ▸ ht)
  | failed _ =>
      obtain ⟨⟨req', rfl⟩ | ⟨req', rfl⟩, ht⟩ := hq
      · exact .execution rfl (hid ▸ ht)
      · exact .stopped rfl (hid ▸ ht)
  | slept _ =>
      obtain ⟨⟨req', rfl⟩, ht⟩ := hq
      exact .execution rfl (hid ▸ ht)
  | retried _ =>
      obtain ⟨⟨req', rfl⟩, ht⟩ := hq
      exact .execution rfl (hid ▸ ht)
  | nextFired => exact absurd ⟨_, rfl, hs, hl⟩ hrel
  | overwritten =>
      obtain ⟨hedit, -, ⟨req', rfl⟩ | ht⟩ := hq
      · exact .scheduleCreated
      · exact .scheduleManaged (managesSchedules_of_editsTemplate hedit) (hid ▸ ht)
  | deleted =>
      obtain ⟨⟨req', rfl⟩, ht⟩ := hq
      exact .scheduleManaged rfl (hid ▸ ht)
  | orphaned _ _ => exact absurd ⟨_, rfl, hs, hl⟩ hrel

/-- In every run of the server, a step that takes a run out of a claim was made
for a request with a cause. -/
theorem release_has_cause (cfg : Config) (w : World) {p p' : ServerState}
    (h : Steps (service cfg) (.init w []) p) (hstep : Atomic.Step (service cfg) p p')
    {runId : Uuid} {workerId : String} {r : RunRow} (hr : p.store.run runId = some r)
    (hs : r.status = .running) (hl : r.lockedBy = some workerId)
    (hrel : ¬ Claimed runId workerId p'.store) :
    ∃ ran req c, p'.trace = ran :: p.trace ∧ p.calls[ran.caller]? = some (req, c) ∧
      Cause cfg runId r ran.env.now req := by
  have hmay := server_may h fun i req c hget => by cases hget
  cases hstep with
  | start _ => exact absurd ⟨r, hr, hs, hl⟩ hrel
  | @exec m cs i e req q k hget ha =>
      exact ⟨_, req, _, rfl, hget, cause_of_release (hmay i req _ hget).1 hr hs hl hrel⟩

/-- Two workers; the first claims the run. -/
def firstClaim : List (Action Env Request) :=
  [.start (.startWorkflow ⟨"job", "queue", "type", none, "ns", "", none⟩)] ++ runs 0 6 (.quiet 0 1) ++
    [.start (.register ⟨"ns", "queue", ["type"], "host", 7, ""⟩)] ++ runs 1 1 (.quiet 0 2) ++
    [.start (.register ⟨"ns", "queue", ["type"], "host", 8, ""⟩)] ++ runs 2 1 (.quiet 0 3) ++
    [.start (.pollTask ⟨"queue", "2", "ns", ["type"]⟩ 0)] ++ runs 3 2 (.quiet 0 4)

/-- A request of the first worker arrives, and waits while the second worker
claims the run, a minute later. -/
def secondClaim : List (Action Env Request) :=
  [.start (.sleep ⟨"ns", "1", "nap", some ⟨5, 0⟩⟩),
    .start (.pollTask ⟨"queue", "3", "ns", ["type"]⟩ 0)] ++ runs 5 2 (.quiet 61 5)

def afterFirst : ServerState := fireAll (service .sample) (.init (.empty 0) []) firstClaim

def afterSecond : ServerState := fireAll (service .sample) afterFirst secondClaim

def afterSleep : ServerState := (Action.exec 4 (.quiet 62 6)).fire (service .sample) afterSecond

theorem afterFirst_steps : Steps (service .sample) (.init (.empty 0) []) afterFirst :=
  AllEnabled.steps (by decide +kernel)

theorem afterSecond_steps : Steps (service .sample) afterFirst afterSecond :=
  AllEnabled.steps (by decide +kernel)

theorem afterSleep_step : Atomic.Step (service .sample) afterSecond afterSleep :=
  Action.Enabled.step (by decide +kernel)

theorem claimed_of_map {w : World} {runId : Uuid} {workerId : String}
    (h : (w.run runId).map (fun r => (r.status, r.lockedBy)) = some (.running, some workerId)) :
    Claimed runId workerId w := by
  obtain ⟨r, hr, hval⟩ := Option.map_eq_some_iff.mp h
  exact ⟨r, hr, Prod.mk.inj hval⟩

theorem afterSleep_released : ¬ Claimed 1 "3" afterSleep.store := by
  rintro ⟨r, hr, hs, -⟩
  have h : (afterSleep.store.run 1).map RunRow.status = some .sleeping := by decide +kernel
  rw [hr, Option.map_some, hs] at h
  cases h

theorem release_has_cause_sleep :
    ∃ ran req c, afterSleep.trace = ran :: afterSecond.trace ∧
      afterSecond.calls[ran.caller]? = some (req, c) ∧
      ∃ r, Cause .sample 1 r ran.env.now req := by
  obtain ⟨r, hr, hs, hl⟩ : Claimed 1 "3" afterSecond.store := claimed_of_map (by decide +kernel)
  obtain ⟨ran, req, c, htrace, hcall, hcause⟩ := release_has_cause .sample (.empty 0)
    (afterFirst_steps.trans afterSecond_steps) afterSleep_step hr hs hl afterSleep_released
  exact ⟨ran, req, c, htrace, hcall, r, hcause⟩

/-- No message of an execution takes a run out of the claim of a worker that
claimed it only after the message had arrived. -/
def Fenced (cfg : Config) : Prop :=
  ∀ (start : Int) (p p₁ p₂ p₃ : ServerState) (runId : Uuid) (first second : String),
    Steps (service cfg) (.init (.empty start) []) p → Claimed runId first p.store →
    Steps (service cfg) p p₁ → Claimed runId second p₁.store → first ≠ second →
    Steps (service cfg) p₁ p₂ → Claimed runId second p₂.store →
    Atomic.Step (service cfg) p₂ p₃ →
    (∀ ran, p₃.trace = ran :: p₂.trace → ran.caller < p₁.calls.length ∧
      ∃ req c, p₂.calls[ran.caller]? = some (req, c) ∧ endsExecution req = true) →
    Claimed runId second p₃.store

/-- A sleep that the first worker sent before its lease expired ends the claim of
the second. -/
theorem not_fenced : ¬ Fenced .sample := by
  intro hfenced
  refine afterSleep_released (hfenced 0 afterFirst afterSecond afterSecond afterSleep 1 "2" "3"
    afterFirst_steps (claimed_of_map (by decide +kernel)) afterSecond_steps
    (claimed_of_map (by decide +kernel)) (by decide) .refl (claimed_of_map (by decide +kernel))
    afterSleep_step ?_)
  intro ran hran
  have hcaller : afterSleep.trace.head?.map Event.caller = some 4 := by decide +kernel
  have hreq : afterSecond.calls[4]?.map Prod.fst
      = some (.sleep ⟨"ns", "1", "nap", some ⟨5, 0⟩⟩) := by decide +kernel
  rw [hran] at hcaller
  have hran' : ran.caller = 4 := Option.some.inj hcaller
  obtain ⟨⟨req, c⟩, hget, heq⟩ := Option.map_eq_some_iff.mp hreq
  obtain rfl : req = _ := heq
  rw [hran']
  exact ⟨by decide +kernel, _, c, hget, rfl⟩

end Fencing

end Kagzi
