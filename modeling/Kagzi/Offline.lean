import Kagzi.Server.Footprint
import Kagzi.Store.WorkerChange

/-!
# A worker that is offline

A worker leaves by being drained, deregistered or marked stale.  `deregistered_at`
is to be set exactly on the rows that are `OFFLINE`, an `OFFLINE` row is to be left
alone, and none of the five operations on workers is to run into the unique index of
the active workers.

`heartbeat` and `mark_stale_offline` look for a row that is not `OFFLINE`.
`start_drain` does not: it makes an `OFFLINE` worker a draining one that is
deregistered (`offline_worker_is_drained`), or fails because the process has
registered again.  In the runs in which no drain hits an `OFFLINE` row, the rest
holds (`offline_is_final_if_not_drained`).
-/

namespace Kagzi

open Atomic Relational

/-- The worker is registered and offline. -/
def World.Offline (w : World) (workerId : Uuid) : Prop :=
  ∃ r, w.worker workerId = some r ∧ r.status = .offline

namespace Offline

/-- The server, for all requests. -/
abbrev service (cfg : Config) : Service Stmt Stmt.Result World Env Request Status Response :=
  server cfg fun _ => True

/-- `deregistered_at` is set exactly on the rows that are offline. -/
def Stamped (w : World) : Prop :=
  ∀ workerId r, w.worker workerId = some r → (r.deregisteredAt.isSome ↔ r.status = .offline)

/-- The statement on workers is refused by the unique index of the active workers:
it is refused by some index, and not because the id that a registration draws is
taken. -/
def BreaksIndex (ran : Ran) (before : World) : Prop :=
  ran.query.sparesWorkers = false ∧
    (∃ x, ran.answer = .error x ∧ x.isUniqueViolation = true) ∧
    ∀ params, ran.query = .registerWorker params → before.worker ran.env.fresh = none

/-- What is to hold between an earlier state of a run and a later one.  A heartbeat
comes later when it had made no statement in the earlier state. -/
structure Final (cfg : Config) (w : World) (p p' : ServerState) : Prop where
  stamped : Stamped p'.store
  stays : ∀ workerId, p.store.Offline workerId → p'.store.Offline workerId
  refused : ∀ workerId, p.store.Offline workerId → ∀ i req resp,
    (∀ ran ∈ p.trace, ran.caller ≠ i) → p'.calls[i]? = some (.heartbeat req, .ret resp) →
      cfg.parseUuid req.workerId ≠ some workerId
  fits : ∀ later ran earlier, p'.trace = later ++ ran :: earlier →
    ¬ BreaksIndex ran (store.replay w earlier)

/-- The law of workers that are offline, in the runs of a service. -/
def OfflineIsFinal (cfg : Config)
    (S : Service Stmt Stmt.Result World Env Request Status Response) : Prop :=
  ∀ (w : World) (p p' : ServerState), Stamped w → Steps S (.init w []) p → Steps S p p' →
    Final cfg w p p'

/-- A drain that is carried out finds its worker not offline. -/
def DrainsActive : Condition Stmt Stmt.Result World Env := fun _ e q m =>
  match q with
  | .startDrain workerId ns => e.fault = false →
      ∀ r, m.store.worker workerId = some r → r.ns = ns → r.status ≠ .offline
  | _ => True

instance (i : Nat) (e : Env) (q : Stmt) (m : Now) : Decidable (DrainsActive i e q m) := by
  apply Stmt.casesOn (motive := fun q => Decidable (DrainsActive i e q m)) q
  case startDrain =>
    intro workerId ns
    exact inferInstanceAs (Decidable (e.fault = false →
      ∀ r ∈ m.store.worker workerId, r.ns = ns → r.status ≠ .offline))
  all_goals
    intros
    exact inferInstanceAs (Decidable True)

/-! ## One statement -/

section Statements
variable {i : Nat} {e : Env} {q : Stmt} {m : Now} {workerId : Uuid}

/-- A statement on workers that faults has no effect. -/
theorem exec_of_worker_fault {db : Db} (h : e.fault = true) (hq : q.sparesWorkers = false) :
    q.exec e db = (.error .database, db) := by
  have hlocal : q.isLocal = false := by
    cases q with
    | registerWorker _ => rfl
    | heartbeatWorker _ => rfl
    | startDrain _ _ => rfl
    | deregisterWorker _ _ => rfl
    | markStaleOffline _ => rfl
    | _ => cases hq
  exact Stmt.exec_of_fault h hlocal

/-- What becomes of the row of a worker when no drain hits an offline one. -/
theorem worker_of_drainsActive (h : DrainsActive i e q m) {r : WorkerRow}
    (hr : m.store.worker workerId = some r) :
    ∃ r', (store.exec e q m.store).2.worker workerId = some r' ∧
      (r.status = .offline → r'.status = .offline) ∧
      ((r.deregisteredAt.isSome ↔ r.status = .offline) →
        (r'.deregisteredAt.isSome ↔ r'.status = .offline)) := by
  have hc := q.exec_worker e m.store.db workerId
  rw [show m.store.db.worker workerId = some r from hr] at hc
  have hdrain : q = .startDrain r.workerId r.ns → e.fault = true →
      (q.exec e m.store.db).2.worker workerId = some r := by
    rintro rfl hfault
    rw [exec_of_worker_fault hfault rfl]
    exact hr
  show ∃ r', (q.exec e m.store.db).2.worker workerId = some r' ∧ _
  generalize (q.exec e m.store.db).2.worker workerId = new at hc hdrain
  cases hc with
  | same => exact ⟨r, rfl, id, id⟩
  | reregistered hs => exact ⟨_, rfl, fun ho => absurd ho hs, fun _ => by simp [WorkerRow.reregister]⟩
  | beat hs => exact ⟨_, rfl, id, id⟩
  | drained =>
      cases hfault : e.fault with
      | true => exact ⟨r, hdrain rfl hfault, id, id⟩
      | false =>
          have hs : r.status ≠ .offline :=
            h hfault r ((Db.workerId_of_worker hr).symm ▸ hr) rfl
          refine ⟨_, rfl, fun ho => absurd ho hs, fun hstamp => ?_⟩
          simpa [WorkerRow.drain, hs] using hstamp
  | deregistered => exact ⟨_, rfl, fun _ => rfl, fun _ => by simp [WorkerRow.offline]⟩
  | stale _ _ => exact ⟨_, rfl, fun _ => rfl, fun _ => by simp [WorkerRow.offline]⟩

theorem offline_kept (workerId : Uuid) :
    Invariant (store.restrict DrainsActive) fun m => m.store.Offline workerId := by
  rintro i e q m ⟨r, hr, hs⟩ ⟨-, hq⟩
  obtain ⟨r', hr', hoff, -⟩ := worker_of_drainsActive hq hr
  exact ⟨r', hr', hoff hs⟩

theorem stamped_kept : Invariant (store.restrict DrainsActive) fun m => Stamped m.store := by
  intro i e q m hm ha workerId r' hr'
  cases hr : m.store.worker workerId with
  | some r =>
      obtain ⟨r'', hr'', -, hstamp⟩ := worker_of_drainsActive ha.2 hr
      obtain rfl := Option.some.inj (hr'.symm.trans hr'')
      exact hstamp (hm workerId r hr)
  | none =>
      have hc := q.exec_worker e m.store.db workerId
      rw [show m.store.db.worker workerId = none from hr,
        show (q.exec e m.store.db).2.worker workerId = some r' from hr'] at hc
      cases hc with
      | registered => simp [WorkerRow.registered]

/-- A heartbeat misses a worker that is offline. -/
theorem heartbeatWorker_misses (h : m.store.Offline workerId) :
    (store.exec e (.heartbeatWorker workerId) m.store).1 ≠ .ok true := by
  intro hres
  obtain ⟨r, hr, hs⟩ := h
  have hstmt : ((Stmt.heartbeatWorker workerId).exec e m.store.db).1 = .ok true := hres
  rw [Stmt.exec_ok hstmt] at hstmt
  simp only [Stmt.sql, heartbeatWorker, Db.commitWorkers] at hstmt
  split at hstmt
  next =>
    obtain ⟨x, hx, hp⟩ := List.any_eq_true.mp (Except.ok.inj hstmt)
    simp only [Bool.and_eq_true, decide_eq_true_eq] at hp
    have hget : m.store.db.workers.get? x.workerId = some x := Table.get?_of_mem hx
    rw [hp.1] at hget
    obtain rfl := Option.some.inj (hget.symm.trans hr)
    exact hp.2 hs
  next => cases hstmt

end Statements

/-! ## The index of the active workers -/

section Index
variable {e : Env} {db : Db} {α : Type}

/-- An update of workers that does not touch the columns of the indexes, or takes a row out of
the index of the active workers, is not refused. -/
theorem commitWorkers_fits {p : WorkerRow → Bool} {f : WorkerRow → WorkerRow} {a : α}
    (hf : ∀ r ∈ db.workers.rows, p r = true → ∀ x, WorkerRow.Clash x (f r) → WorkerRow.Clash x r) :
    (db.commitWorkers p f a).1 = .ok a := by
  obtain ⟨workers, hu⟩ := Table.update?_of_mild (t := db.workers) (p := p) (f := f)
    fun r hr hp => ⟨trivial, hf r hr hp⟩
  simp [Db.commitWorkers, hu]

theorem clash_of_offline {x r : WorkerRow} (now : Int) (h : WorkerRow.Clash x (r.offline now)) :
    WorkerRow.Clash x r := by
  rcases h with hid | ⟨-, hoff, -⟩
  · exact .inl hid
  · exact absurd rfl hoff

/-- A row that is active already may be made active. -/
theorem clash_of_active {x r r' : WorkerRow} (h : WorkerRow.Clash x r') (hs : r.status ≠ .offline)
    (hid : r'.workerId = r.workerId) (hns : r'.ns = r.ns) (hqueue : r'.taskQueue = r.taskQueue)
    (hhost : r'.hostname = r.hostname) (hpid : r'.pid = r.pid) : WorkerRow.Clash x r := by
  rcases h with h | ⟨hx, -, h⟩
  · exact .inl (h.trans hid)
  · rw [hns, hqueue, hhost, hpid] at h
    exact .inr ⟨hx, hs, h⟩

theorem registerWorker_fits {params : RegisterWorkerParams} {x : StoreError}
    (h : (registerWorker params e db).1 = .error x) (hx : x.isUniqueViolation = true) :
    ∃ r, db.worker e.fresh = some r := by
  unfold registerWorker at h
  split at h
  next r hfind =>
    have hsame := List.find?_some hfind
    simp only [WorkerRow.sameProcess, Bool.and_eq_true, decide_eq_true_eq] at hsame
    rw [commitWorkers_fits fun r' hr' hp x' hcl => ?_] at h
    · cases h
    · obtain rfl : r' = r := db.workers.eq_of_clash hr' (List.mem_of_find?_eq_some hfind)
        (.inl (by simpa using hp))
      exact clash_of_active hcl hsame.1.1.1.1 rfl rfl rfl rfl rfl
  next hnone =>
    split at h
    next =>
      split at h
      next => cases h
      next hi =>
        have hclash : ∃ r ∈ db.workers.rows,
            WorkerRow.Clash r (WorkerRow.registered params e.fresh e.now) := by
          by_contra hno
          have hfits : ∀ r ∈ db.workers.rows,
              ¬ Row.Clash r (WorkerRow.registered params e.fresh e.now) :=
            fun r hr hcl => hno ⟨r, hr, hcl⟩
          rw [Table.insert?, dif_pos ⟨trivial, hfits⟩] at hi
          cases hi
        obtain ⟨r, hr, hid | ⟨hs, -, hns, hqueue, hhost, hpid⟩⟩ := hclash
        · have hget : db.workers.get? r.workerId = some r := Table.get?_of_mem hr
          exact ⟨r, (congrArg db.workers.get? hid).symm.trans hget⟩
        · refine absurd ?_ (List.find?_eq_none.mp hnone r hr)
          simp only [WorkerRow.sameProcess, Bool.and_eq_true, decide_eq_true_eq]
          exact ⟨⟨⟨⟨hs, hns⟩, hqueue⟩, hhost⟩, hpid⟩
    next =>
      obtain rfl := Except.error.inj h
      cases hx

end Index

/-- A statement is not refused by the index of the active workers when no drain hits an
offline one. -/
theorem fits_of_drainsActive {i : Nat} {e : Env} {q : Stmt} {m : Now} (h : DrainsActive i e q m) :
    ¬ BreaksIndex ⟨i, e, q, (store.exec e q m.store).1⟩ m.store := by
  rintro ⟨hq, ⟨x, hres, hx⟩, hfresh⟩
  change (q.exec e m.store.db).1 = .error x at hres
  have hsafe : e.fault = false := by
    by_contra hfault
    rw [exec_of_worker_fault (by simpa using hfault) hq] at hres
    obtain rfl := Except.error.inj hres
    cases hx
  rcases q.exec_cases e m.store.db with hexec | hexec
  · rw [hexec] at hres
    obtain rfl := Except.error.inj hres
    cases hx
  · rw [hexec] at hres
    have hfits : ∀ {α : Type} {p : WorkerRow → Bool} {f : WorkerRow → WorkerRow} {a : α},
        (m.store.db.commitWorkers p f a).1 = .error x →
        (∀ r ∈ m.store.db.workers.rows, p r = true →
          ∀ y, WorkerRow.Clash y (f r) → WorkerRow.Clash y r) → False := by
      intro α p f a herr hf
      rw [commitWorkers_fits hf] at herr
      cases herr
    cases q with
    | registerWorker params =>
        obtain ⟨r, hr⟩ := registerWorker_fits hres hx
        have hnone : m.store.db.worker e.fresh = none := hfresh params rfl
        rw [hnone] at hr
        cases hr
    | heartbeatWorker workerId => exact hfits hres fun _ _ _ _ hcl => hcl
    | startDrain workerId ns =>
        refine hfits hres fun r hr hp y hcl => ?_
        obtain ⟨rfl, rfl⟩ : r.workerId = workerId ∧ r.ns = ns := by simpa using hp
        have hs : r.status ≠ .offline := h hsafe r (Table.get?_of_mem hr) rfl
        exact clash_of_active hcl hs rfl rfl rfl rfl rfl
    | deregisterWorker workerId ns => exact hfits hres fun _ _ _ _ hcl => clash_of_offline _ hcl
    | markStaleOffline secs => exact hfits hres fun _ _ _ _ hcl => clash_of_offline _ hcl
    | _ => cases hq

/-! ## Heartbeats -/

/-- A heartbeat of the worker is not answered with a hit. -/
def Missed (workerId : Uuid) : (q : Stmt) → q.Result → Prop
  | .heartbeatWorker target, a => target = workerId → a ≠ .ok true
  | _, _ => True

theorem missed_of_offline {e : Env} (q : Stmt) {m : Now} {workerId : Uuid}
    (h : m.store.Offline workerId) : Missed workerId q (store.exec e q m.store).1 := by
  cases q with
  | heartbeatWorker target =>
      rintro rfl
      exact heartbeatWorker_misses h
  | _ => trivial

/-- A heartbeat that misses its worker is refused. -/
theorem heartbeat_within {cfg : Config} {req : HeartbeatRequest} {workerId : Uuid}
    (hid : cfg.parseUuid req.workerId = some workerId) :
    (WorkerService.heartbeat cfg req).Within (Missed workerId) (fun _ => True) (fun _ => False)
      (fun _ => True) := by
  refine within_uuid_bind (fun id hparse => ?_) fun _ => trivial
  obtain rfl : workerId = id := Option.some.inj (hid.symm.trans hparse)
  refine (within_stmt (R := fun hit => hit = false) trivial (fun hit hmiss => ?_)
    fun _ _ => trivial).bind fun hit hhit => ?_
  · cases hit with
    | true => exact absurd rfl (hmiss rfl)
    | false => rfl
  · subst hhit
    exact trivial

/-! ## The result -/

/-- A worker that is offline stays offline in the runs in which no drain hits one. -/
theorem offline_is_final_if_not_drained (cfg : Config) :
    OfflineIsFinal cfg ((service cfg).restrict DrainsActive) := by
  intro w p p' hw h h'
  have hfits : ∀ later ran earlier, p'.trace = later ++ ran :: earlier →
      ¬ BreaksIndex ran (store.replay w earlier) := by
    intro later ran earlier htrace
    obtain ⟨⟨-, hanswer⟩, hdrains⟩ := (h.trans h').recalled_restrict htrace
    have hanswer' : ran.answer = (store.exec ran.env ran.query (store.replay w earlier)).1 := hanswer
    have hfit : ¬ BreaksIndex ⟨ran.caller, ran.env, ran.query,
        (store.exec ran.env ran.query (store.replay w earlier)).1⟩ (store.replay w earlier) :=
      fits_of_drainsActive hdrains
    rwa [← hanswer'] at hfit
  refine ⟨(h.trans h').invariant stamped_kept hw, fun workerId hoff => h'.invariant (offline_kept workerId) hoff,
    fun workerId hoff i req resp hlater hget hid => ?_, hfits⟩
  -- the rest of a heartbeat of the worker cannot return
  let C : Nat → Request → Rpc Response → Now → Prop := fun i r c _ =>
    (∀ ran ∈ p.trace, ran.caller ≠ i) → ∀ req, r = .heartbeat req →
      cfg.parseUuid req.workerId = some workerId →
        c.Within (Missed workerId) (fun _ => True) (fun _ => False) (fun _ => True)
  refine h'.calls_at (I := fun m => m.store.Offline workerId) (C := C) (offline_kept workerId) ?_ ?_ ?_ hoff
    (h.numbered fun _ hran => nomatch hran) ?_ i _ _ hget hlater req rfl hid
  · rintro i r m - - - - req rfl hreq
    exact heartbeat_within hreq
  · intro i e r q k m hm hc _ hnew req hr hreq
    exact (hc hnew req hr hreq).2 _ (missed_of_offline q hm)
  · exact fun _ _ _ _ _ _ _ _ hc _ _ => hc
  · rintro i r c hold hnew req rfl hreq
    rw [h.unstarted hold hnew]
    exact heartbeat_within hreq

/-! ## A worker that has left -/

/-- A worker registers and is deregistered. -/
def deregistered : List (Action Env Request) :=
  [.start (.startWorkflow ⟨"job", "queue", "type", none, "ns", "", none⟩)] ++
    runs 0 3 (.quiet 0 1) ++
  [.start (.register ⟨"ns", "queue", ["type"], "host", 7, ""⟩)] ++ runs 1 1 (.quiet 0 2) ++
  [.start (.deregister ⟨"2", false⟩)] ++ runs 2 2 (.quiet 1 3)

/-- The state after it. -/
def left : ServerState := fireAll (service .sample) (.init (.empty 0) []) deregistered

/-- The worker sends a heartbeat all the same. -/
def lateHeartbeat : ServerState :=
  fireAll (service .sample) left ([.start (.heartbeat ⟨"2"⟩)] ++ runs 3 1 (.quiet 2 4))

theorem offline_is_final_lateHeartbeat :
    (left.store.worker 2).map WorkerRow.status = some .offline ∧
      (lateHeartbeat.failed 3).isSome = true ∧
      Final .sample (.empty 0) left lateHeartbeat := by
  have h : Steps ((service .sample).restrict DrainsActive) (.init (.empty 0) [])
      (fireAll ((service .sample).restrict DrainsActive) (.init (.empty 0) []) deregistered) :=
    AllEnabled.steps (by decide +kernel)
  have h' : Steps ((service .sample).restrict DrainsActive) left
      (fireAll ((service .sample).restrict DrainsActive) left
        ([.start (.heartbeat ⟨"2"⟩)] ++ runs 3 1 (.quiet 2 4))) :=
    AllEnabled.steps (by decide +kernel)
  rw [fireAll_restrict] at h h'
  have hempty : Stamped (.empty 0) := fun _ _ hr => by cases hr
  exact ⟨by decide +kernel, by decide +kernel,
    offline_is_final_if_not_drained .sample (.empty 0) left lateHeartbeat hempty h h'⟩

/-! ## A drain that comes late -/

/-- An administrator drains the worker. -/
def lateDrain : ServerState :=
  fireAll (service .sample) left ([.start (.drainWorker "2")] ++ runs 3 2 (.quiet 2 4))

/-- A worker that was offline is draining. -/
theorem offline_worker_is_drained : ¬ OfflineIsFinal .sample (service .sample) := by
  intro hfinal
  have h : Steps (service .sample) (.init (.empty 0) []) left := AllEnabled.steps (by decide +kernel)
  have h' : Steps (service .sample) left lateDrain := AllEnabled.steps (by decide +kernel)
  have hbefore : (left.store.worker 2).map WorkerRow.status = some .offline := by decide +kernel
  have hafter : (lateDrain.store.worker 2).map WorkerRow.status = some .draining := by
    decide +kernel
  have hempty : Stamped (.empty 0) := fun _ _ hr => nomatch hr
  obtain ⟨r, hr, hs⟩ := Option.map_eq_some_iff.mp hbefore
  obtain ⟨r', hr', hs'⟩ := (hfinal _ left lateDrain hempty h h').stays 2 ⟨r, hr, hs⟩
  rw [hr', Option.map_some, hs'] at hafter
  cases hafter

end Offline

end Kagzi
