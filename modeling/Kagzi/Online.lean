import Kagzi.Server.Footprint
import Kagzi.Store.WorkerChange

/-!
# Only online workers receive work

A poll checks once that its worker is online, and then asks for a run as often as it
is notified, up to its deadline.  Meanwhile the worker can be drained, deregistered
or marked stale, and a later turn of the loop gives it a run all the same
(`offline_worker_receives_work`).

A poll that takes a run finds its worker online when the worker was not taken out of
service between the check and the claim, or has registered again since
(`only_online_if_undisturbed`).
-/

namespace Kagzi

open Atomic Relational

/-- The worker is registered and online. -/
def World.Online (w : World) (workerId : Uuid) : Prop :=
  ∃ r, w.worker workerId = some r ∧ r.status = .online

namespace Online

/-- The server, for all requests. -/
abbrev service (cfg : Config) : Service Stmt Stmt.Result World Env Request Status Response :=
  server cfg fun _ => True

/-! ## What is claimed -/

/-- The worker, in the text of the request, that a poll is for. -/
def polls : Stmt → Option String
  | .pollWorkflow _ _ workerId _ _ => some workerId
  | _ => none

/-- The statement changes a run. -/
def ChangesRun (e : Env) (q : Stmt) (w : World) : Prop :=
  ∃ runId, (store.exec e q w).2.run runId ≠ w.run runId

/-- A poll that takes a run finds its worker online. -/
def OnlyOnline (cfg : Config)
    (S : World → Service Stmt Stmt.Result World Env Request Status Response) : Prop :=
  ∀ (w : World) (p : ServerState), Steps (S w) (.init w []) p →
    ∀ later ran earlier, p.trace = later ++ ran :: earlier →
      ∀ text, polls ran.query = some text → ChangesRun ran.env ran.query (store.replay w earlier) →
        ∃ workerId, cfg.parseUuid text = some workerId ∧ (store.replay w earlier).Online workerId

/-! ## Leaving and coming back -/

/-- The statement drains the worker of the row or takes it offline. -/
def takesOut (now : Int) (r : WorkerRow) : Stmt → Prop
  | .startDrain workerId ns => workerId = r.workerId ∧ ns = r.ns
  | .deregisterWorker workerId ns => workerId = r.workerId ∧ ns = r.ns
  | .markStaleOffline secs => r.status ≠ .offline ∧ r.lastHeartbeatAt < now - seconds secs
  | _ => False

/-- The statement takes workers out. -/
def leaves : Stmt → Bool
  | .startDrain _ _ => true
  | .deregisterWorker _ _ => true
  | .markStaleOffline _ => true
  | _ => false

/-- The statement, run in this world, registers the worker. -/
def Registers (workerId : Uuid) (ran : Ran) (before : World) : Prop :=
  ∃ params, ran.query = .registerWorker params ∧
    (store.exec ran.env (.registerWorker params) before).1 = .ok workerId

/-- One of the later statements has taken the worker out of service, and it has not
registered since.  `w` is the store at the start. -/
def TakenOut (w : World) (workerId : Uuid) (earlier : List Ran) : List Ran → Prop
  | [] => False
  | ran :: later =>
      (ran.env.fault = false ∧ ∃ r, (store.replay w (later ++ earlier)).worker workerId = some r ∧
        takesOut ran.env.now r ran.query) ∨
      (TakenOut w workerId earlier later ∧
        ¬ Registers workerId ran (store.replay w (later ++ earlier)))

/-- The statement is the check of its worker by the caller. -/
def Checks (i : Nat) (workerId : Uuid) (ran : Ran) : Prop :=
  ran.caller = i ∧ ran.query = .findWorker workerId

/-- A poll that takes a run does so while its worker has not been taken out of service
since its check. -/
def Undisturbed (cfg : Config) (w : World) : Condition Stmt Stmt.Result World Env :=
  fun i e q m => ∀ text workerId, polls q = some text → cfg.parseUuid text = some workerId →
    ChangesRun e q m.store → ∀ later check earlier, m.trace = later ++ check :: earlier →
      Checks i workerId check → ¬ TakenOut w workerId (check :: earlier) later

section Workers
variable {e : Env} {q : Stmt} {w : World} {workerId : Uuid}

/-- A worker that is online stays so unless it is taken out of service. -/
theorem online_or_takesOut (h : w.Online workerId) :
    (store.exec e q w).2.Online workerId ∨
      e.fault = false ∧ ∃ r, w.worker workerId = some r ∧ takesOut e.now r q := by
  obtain ⟨r, hr, hs⟩ := h
  have hc := q.exec_worker e w.db workerId
  rw [show w.db.worker workerId = some r from hr] at hc
  have hout : takesOut e.now r q → (store.exec e q w).2.Online workerId ∨
      e.fault = false ∧ ∃ r, w.worker workerId = some r ∧ takesOut e.now r q := by
    intro htakes
    cases hfault : e.fault with
    | false => exact .inr ⟨rfl, r, hr, htakes⟩
    | true =>
        refine .inl ⟨r, ?_, hs⟩
        have hq : q.isLocal = false := by
          cases q with
          | startDrain _ _ => rfl
          | deregisterWorker _ _ => rfl
          | markStaleOffline _ => rfl
          | _ => exact htakes.elim
        show (q.exec e w.db).2.worker workerId = some r
        rw [Stmt.exec_of_fault hfault hq]
        exact hr
  have hnew : ∀ r', (q.exec e w.db).2.worker workerId = some r' → r'.status = .online →
      (store.exec e q w).2.Online workerId := fun r' hr' hs' => ⟨r', hr', hs'⟩
  generalize (q.exec e w.db).2.worker workerId = new at hc hnew
  cases hc with
  | same => exact .inl (hnew r rfl hs)
  | reregistered _ => exact .inl (hnew _ rfl rfl)
  | beat _ => exact .inl (hnew _ rfl hs)
  | drained => exact hout ⟨rfl, rfl⟩
  | deregistered => exact hout ⟨rfl, rfl⟩
  | stale hs' hlt => exact hout ⟨hs', hlt⟩

/-- A worker that has registered is online. -/
theorem online_of_registerWorker {params : RegisterWorkerParams}
    (h : (store.exec e (.registerWorker params) w).1 = .ok workerId) :
    (store.exec e (.registerWorker params) w).2.Online workerId := by
  have hstmt : ((Stmt.registerWorker params).exec e w.db).1 = .ok workerId := h
  have hsql := Stmt.exec_ok hstmt
  rw [hsql] at hstmt
  show ∃ r, ((Stmt.registerWorker params).exec e w.db).2.worker workerId = some r ∧ _
  rw [hsql]
  simp only [Stmt.sql, registerWorker] at hstmt ⊢
  split
  next r hfind =>
    simp only [hfind, Db.commitWorkers] at hstmt ⊢
    split
    next workers hu =>
      simp only [hu] at hstmt
      obtain rfl := Except.ok.inj hstmt
      have hget : workers.get? r.workerId = _ :=
        Table.get?_update? (f := WorkerRow.reregister params e.now) (fun _ => rfl) hu r.workerId
      have hr : w.db.workers.get? r.workerId = some r :=
        Table.get?_of_mem (List.mem_of_find?_eq_some hfind)
      rw [hr, Option.map_some, amend_of_true (by simp)] at hget
      exact ⟨_, hget, rfl⟩
    next hu =>
      simp only [hu] at hstmt
      cases hstmt
  next hfind =>
    simp only [hfind] at hstmt
    split
    next hns =>
      rw [if_pos hns] at hstmt
      split
      next workers hi =>
        simp only [hi] at hstmt
        obtain rfl := Except.ok.inj hstmt
        have hget : workers.get? e.fresh = if e.fresh = e.fresh
            then some (WorkerRow.registered params e.fresh e.now)
            else w.db.workers.get? e.fresh := Table.get?_insert? hi e.fresh
        rw [if_pos rfl] at hget
        exact ⟨_, hget, rfl⟩
      next hi =>
        simp only [hi] at hstmt
        cases hstmt
    next hns =>
      rw [if_neg hns] at hstmt
      cases hstmt

end Workers

/-- A worker that was online is online still, or it was taken out of service and has
not registered since. -/
theorem online_or_takenOut {w : World} {workerId : Uuid} {earlier : List Ran}
    (h : (store.replay w earlier).Online workerId) (later : List Ran) :
    (store.replay w (later ++ earlier)).Online workerId ∨ TakenOut w workerId earlier later := by
  induction later with
  | nil => exact .inl h
  | cons ran later ih =>
      rcases ih with honline | htaken
      · exact (online_or_takesOut honline).imp_right Or.inl
      · by_cases hback : Registers workerId ran (store.replay w (later ++ earlier))
        · obtain ⟨params, hq, hres⟩ := hback
          refine .inl ?_
          show (store.exec ran.env ran.query (store.replay w (later ++ earlier))).2.Online workerId
          rw [hq]
          exact online_of_registerWorker hres
        · exact .inr (.inr ⟨htaken, hback⟩)

/-! ## The polls -/

/-- A poll that takes a run finds its worker online. -/
def Safe (cfg : Config) : Condition Stmt Stmt.Result World Env := fun _ e q m =>
  ∀ text, polls q = some text → ChangesRun e q m.store →
    ∃ workerId, cfg.parseUuid text = some workerId ∧ m.store.Online workerId

/-- The caller has read the row of its worker. -/
def Found (w : World) (i : Nat) (workerId : Uuid) (found : Option WorkerRow) (m : Now) : Prop :=
  ∃ later check earlier, m.trace = later ++ check :: earlier ∧ Checks i workerId check ∧
    (store.replay w (check :: earlier)).worker workerId = found

section Judgements
variable {cfg : Config} {w : World} {i : Nat} {workerId : Uuid}

abbrev engine (cfg : Config) (w : World) : Engine Stmt Stmt.Result World Env :=
  store.restrict (Undisturbed cfg w)

/-- The past is known throughout. -/
theorem replayed_kept (cfg : Config) (w : World) : Invariant (engine cfg w) (Replayed store w) :=
  replayed_invariant store (engine cfg w) rfl w

theorem found_kept {M : Engine Stmt Stmt.Result World Env} {found : Option WorkerRow} :
    Invariant M (Found w i workerId found) := by
  rintro j e q m ⟨later, check, earlier, htrace, h⟩ -
  exact ⟨_ :: later, check, earlier, congrArg (List.cons _) htrace, h⟩

/-- A statement that is no poll is safe. -/
theorem safe_of_polls {e : Env} {q : Stmt} {m : Now} (h : polls q = none) : Safe cfg i e q m := by
  intro text hq
  rw [h] at hq
  cases hq

/-- A poll is safe when its worker was online at the check. -/
theorem safe_of_found {e : Env} {q : Stmt} {m : Now} {text : String} {r : WorkerRow}
    (hid : cfg.parseUuid text = some workerId) (hs : r.status = .online)
    (hm : Found w i workerId (some r) m ∧ Replayed store w m) (ha : (engine cfg w).admits i e q m)
    (hq : ∀ t, polls q = some t → t = text) : Safe cfg i e q m := by
  intro t hpoll hchanges
  obtain rfl := hq t hpoll
  obtain ⟨⟨later, check, earlier, htrace, hcheck, hr⟩, hpast⟩ := hm
  have hquiet := ha.2 t workerId hpoll hid hchanges later check earlier htrace hcheck
  refine ⟨workerId, hid, ?_⟩
  rw [show m.store = store.replay w m.trace from hpast, htrace]
  exact (online_or_takenOut ⟨r, hr, hs⟩ later).resolve_right hquiet

theorem sat_findWorker :
    Sat (engine cfg w) (Safe cfg) i (Replayed store w) (stmt (.findWorker workerId))
      (fun found m => Found w i workerId found m ∧ Replayed store w m) (fun _ _ => True) := by
  have hpoll : polls (.findWorker workerId) = none := rfl
  have hread : Sat (engine cfg w) (Safe cfg) i (Replayed store w) (sql (.findWorker workerId))
      (fun found m => Found w i workerId found m ∧ Replayed store w m)
      (fun _ => Replayed store w) := by
    refine sat_sql_learn (fun _ _ _ _ => safe_of_polls hpoll) (replayed_kept cfg w).restrict
      (fun _ => found_kept) fun e m found hm _ hres => ?_
    have hstmt : ((Stmt.findWorker workerId).exec e m.store.db).1 = .ok found := hres
    have hsql := Stmt.exec_ok hstmt
    rw [hsql] at hstmt
    refine ⟨[], _, m.trace, rfl, ⟨rfl, rfl⟩, ?_⟩
    show (store.exec e (.findWorker workerId) (store.replay w m.trace)).2.worker workerId = found
    rw [← show m.store = store.replay w m.trace from hm]
    show ((Stmt.findWorker workerId).exec e m.store.db).2.worker workerId = found
    rw [hsql]
    exact Except.ok.inj hstmt
  exact hread.mapError fun _ _ _ => trivial

theorem sat_pollTask (req : PollTaskRequest) (waits : Nat) :
    Sat (engine cfg w) (Safe cfg) i (Replayed store w) (WorkerService.pollTask cfg req waits)
      (fun _ _ => True) (fun _ _ => True) := by
  refine sat_uuid_bind (fun workerId hid => ?_) fun _ _ _ => trivial
  split
  next => exact fun _ _ => trivial
  next =>
    refine sat_requireNonEmpty_bind ?_ fun _ _ _ => trivial
    refine Sat.bind sat_findWorker fun found => sat_orFail_bind (fun r hr => ?_) fun _ _ => trivial
    subst hr
    split
    next => exact fun _ _ => trivial
    next =>
      split
      next => exact fun _ _ => trivial
      next hoffline =>
        split
        next => exact fun _ _ => trivial
        next hdraining =>
          have honline : r.status = .online := by
            cases hs : r.status with
            | online => rfl
            | draining => exact absurd hs hdraining
            | offline => exact absurd hs hoffline
          dsimp only
          split
          next => exact fun _ _ => trivial
          next =>
            have hkeep : Invariant ((engine cfg w).restrict (Safe cfg)) fun m =>
                Found w i workerId (some r) m ∧ Replayed store w m := fun j e q m hm ha =>
              ⟨found_kept j e q m hm.1 ha, replayed_kept cfg w j e q m hm.2 ha.1⟩
            refine (Sat.of_uses (pollLoop_uses cfg req _ waits waits) hkeep.stable
              fun e q m hq hm ha => ?_).mono (fun _ h => h) (fun _ _ _ => trivial)
              fun _ _ _ => trivial
            have hsafe : Safe cfg i e q m := by
              refine safe_of_found hid honline hm ha fun t hpoll => ?_
              cases q with
              | pollWorkflow _ _ text _ _ =>
                  obtain ⟨⟨⟨r', n, heq, htext⟩, -⟩, -⟩ := hq
                  obtain ⟨rfl, -⟩ := Request.pollTask.inj heq
                  rw [← Option.some.inj hpoll, htext]
              | _ => cases hpoll
            exact ⟨hsafe, hkeep i e q m hm ⟨ha, hsafe⟩⟩

end Judgements

/-! ## The result -/

theorem serves (cfg : Config) (w : World) :
    Serves ((service cfg).restrict (Undisturbed cfg w)) (Safe cfg) (Replayed store w)
      (fun _ _ _ _ => True) (fun _ _ _ _ => True) := by
  intro i req _
  refine ⟨Replayed store w, (replayed_kept cfg w).restrict.stable, fun _ h _ => h, ?_⟩
  by_cases h : ∃ r waits, req = .pollTask r waits
  · obtain ⟨r, waits, rfl⟩ := h
    exact sat_pollTask r waits
  · refine (Sat.of_uses (handle_uses cfg req) (replayed_kept cfg w).restrict.stable
      fun e q m hq hm ha => ?_).mono (fun _ h => h) (fun _ _ _ => trivial) fun _ _ _ => trivial
    have hsafe : Safe cfg i e q m := by
      cases q with
      | pollWorkflow _ _ _ _ _ =>
          obtain ⟨⟨r, waits, heq, -⟩, -⟩ := hq
          exact absurd ⟨r, waits, heq⟩ h
      | _ => exact safe_of_polls rfl
    exact ⟨hsafe, replayed_kept cfg w i e q m hm ha⟩

/-- Only online workers receive work in the runs in which no worker is taken out of
service between its check and a claim. -/
theorem only_online_if_undisturbed (cfg : Config) :
    OnlyOnline cfg fun w => (service cfg).restrict (Undisturbed cfg w) := by
  intro w p h later ran earlier htrace
  have hinv : Invariant ((engine cfg w).restrict (Safe cfg)) (Replayed store w) :=
    (replayed_kept cfg w).restrict
  have hstart : Replayed store w ⟨w, []⟩ := rfl
  obtain ⟨hsafe, -⟩ := h.sound (serves cfg w) hinv hstart (sound_nil w)
  have hpoll : Safe cfg ran.caller ran.env ran.query ⟨(engine cfg w).replay w earlier, earlier⟩ :=
    (hsafe.recalled_restrict htrace).2
  rwa [Engine.restrict_replay] at hpoll

/-- Workers are only registered, and never leave. -/
def Attended : Condition Stmt Stmt.Result World Env := fun _ _ _ m =>
  (m.trace.all fun ran => !leaves ran.query) = true

instance (i : Nat) (e : Env) (q : Stmt) (m : Now) : Decidable (Attended i e q m) :=
  inferInstanceAs (Decidable (_ = true))

theorem undisturbed_of_attended {cfg : Config} {w : World} {i : Nat} {e : Env} {q : Stmt} {m : Now}
    (h : Attended i e q m) : Undisturbed cfg w i e q m := by
  intro _ workerId _ _ _ later check earlier htrace _
  have hall : ∀ ran ∈ later, leaves ran.query = false := by
    intro ran hran
    have hstays := List.all_eq_true.mp h ran (by rw [htrace]; exact List.mem_append_left _ hran)
    simpa using hstays
  clear htrace
  induction later with
  | nil => exact id
  | cons ran later ih =>
      rintro (⟨-, r, -, htakes⟩ | ⟨hout, -⟩)
      · have hstays := hall ran (List.mem_cons_self ..)
        revert htakes hstays
        unfold leaves
        cases ran.query <;> simp [takesOut]
      · exact ih (fun ran hran => hall ran (List.mem_cons_of_mem _ hran)) hout

/-- A worker polls, and takes the run that is there. -/
def takenAtOnce : List (Action Env Request) :=
  [.start (.startWorkflow ⟨"job", "queue", "type", none, "ns", "", none⟩)] ++
    runs 0 6 (.quiet 0 1) ++
  [.start (.register ⟨"ns", "queue", ["type"], "", 0, ""⟩)] ++ runs 1 1 (.quiet 0 2) ++
  [.start (.pollTask ⟨"queue", "2", "ns", ["type"]⟩ 0)] ++ runs 2 2 (.quiet 1 3)

def prompt : ServerState := fireAll (service .sample) (.init (.empty 0) []) takenAtOnce

theorem only_online_prompt : (prompt.store.run 1).map RunRow.lockedBy = some (some "2") ∧
    (store.replay (.empty 0) (prompt.trace.drop 1)).Online 2 := by
  have h : Steps ((service .sample).restrict Attended) (.init (.empty 0) [])
      (fireAll ((service .sample).restrict Attended) (.init (.empty 0) []) takenAtOnce) :=
    AllEnabled.steps (by decide +kernel)
  rw [fireAll_restrict] at h
  have hcalm : Steps ((service .sample).restrict (Undisturbed .sample (.empty 0)))
      (.init (.empty 0) []) prompt :=
    h.restrict_mono fun _ _ _ _ => undisturbed_of_attended
  obtain ⟨claim, earlier, htrace⟩ := List.exists_cons_of_length_pos
    (show 0 < prompt.trace.length by decide +kernel)
  have hpoll : (prompt.trace.head?.bind fun ran => polls ran.query) = some "2" := by decide +kernel
  have hbefore : ((store.replay (.empty 0) (prompt.trace.drop 1)).run 1).map RunRow.status =
      some .pending := by
    decide +kernel
  have hafter : ((store.replay (.empty 0) prompt.trace).run 1).map RunRow.status =
      some .running := by
    decide +kernel
  have hlocked : (prompt.store.run 1).map RunRow.lockedBy = some (some "2") := by decide +kernel
  rw [htrace] at hpoll hbefore hafter ⊢
  change ((store.replay (.empty 0) earlier).run 1).map RunRow.status = _ at hbefore
  have hchanges : ChangesRun claim.env claim.query (store.replay (.empty 0) earlier) := by
    refine ⟨1, fun heq => ?_⟩
    rw [show (store.replay (.empty 0) (claim :: earlier)).run 1 = _ from heq] at hafter
    rw [hafter] at hbefore
    cases hbefore
  obtain ⟨workerId, hid, honline⟩ :=
    only_online_if_undisturbed .sample (.empty 0) prompt hcalm [] claim earlier htrace "2" hpoll
      hchanges
  have hparse : Config.sample.parseUuid "2" = some 2 := by decide +kernel
  obtain rfl : 2 = workerId := Option.some.inj (hparse.symm.trans hid)
  exact ⟨hlocked, honline⟩

/-! ## A worker that is gone -/

/-- A worker polls, finds nothing, and waits.  It is deregistered, a run is created,
and the poll takes it. -/
def pollDeregistered : List (Action Env Request) :=
  [.start (.startWorkflow ⟨"job", "queue", "type", none, "ns", "", none⟩)] ++
    runs 0 3 (.quiet 0 1) ++
  [.start (.register ⟨"ns", "queue", ["type"], "", 0, ""⟩)] ++ runs 1 1 (.quiet 0 2) ++
  [.start (.pollTask ⟨"queue", "2", "ns", ["type"]⟩ 1)] ++ runs 2 2 (.quiet 1 3) ++
  [.start (.deregister ⟨"2", false⟩)] ++ runs 3 2 (.quiet 2 3) ++ runs 0 3 (.quiet 3 1) ++
    runs 2 1 (.quiet 4 3)

/-- The state after it. -/
def taken : ServerState := fireAll (service .sample) (.init (.empty 0) []) pollDeregistered

/-- The statements before the claim. -/
def waiting : List Ran := taken.trace.drop 1

theorem taken_length : 0 < taken.trace.length := by decide +kernel

/-- The claim. -/
def claim : Ran := taken.trace.get ⟨0, taken_length⟩

theorem taken_trace : taken.trace = [] ++ claim :: waiting := by
  unfold claim waiting
  rw [List.nil_append, List.get_eq_getElem, List.getElem_cons_drop, List.drop_zero]

/-- The worker has been offline for two seconds when it is given the run. -/
theorem offline_worker_receives_work : ¬ OnlyOnline .sample fun _ => service .sample := by
  intro honly
  have h : Steps (service .sample) (.init (.empty 0) []) taken :=
    AllEnabled.steps (by decide +kernel)
  have hpoll : polls claim.query = some "2" := by decide +kernel
  have hbefore : ((store.replay (.empty 0) waiting).run 1).map RunRow.status = some .pending := by
    decide +kernel
  have hafter : ((store.exec claim.env claim.query (store.replay (.empty 0) waiting)).2.run 1).map
      RunRow.status = some .running := by
    decide +kernel
  have hchanges : ChangesRun claim.env claim.query (store.replay (.empty 0) waiting) := by
    refine ⟨1, fun heq => ?_⟩
    rw [heq, hbefore] at hafter
    cases hafter
  obtain ⟨workerId, hid, r, hr, hs⟩ := honly _ taken h [] claim waiting taken_trace "2" hpoll hchanges
  have hoffline : ((store.replay (.empty 0) waiting).worker 2).map WorkerRow.status
      = some .offline := by
    decide +kernel
  obtain rfl : 2 = workerId := Option.some.inj hid
  rw [hr, Option.map_some, hs] at hoffline
  cases hoffline

end Online

end Kagzi
