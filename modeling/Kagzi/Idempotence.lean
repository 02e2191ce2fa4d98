import Kagzi.Server.Service
import Kagzi.Store.RunChange

/-!
# Starting a run is idempotent

The handler of `StartWorkflow` inserts the run, and when the unique index over the
runs that are not over refuses it, looks for the active run with the external id in a
second query.  In between, that run can end and another be created.

Still, every answer carries a run that was active with the key at some moment of the
call, and while a run is active, calls with its key return that run and create none
(`start_is_idempotent`).  The argument is about one statement of the call: the
insertion that succeeds, which finds no active run with the key, or the query, which
finds the only one.
-/

namespace Kagzi

open Atomic Relational

/-- The run is not over, and has the external id in the namespace. -/
def World.Active (w : World) (runId : Uuid) (ns externalId : String) : Prop :=
  ∃ r, w.run runId = some r ∧ r.ns = ns ∧ r.externalId = externalId ∧ r.status.isTerminal = false

namespace Idempotence

/-- The server, for all requests. -/
abbrev service (cfg : Config) : Service Stmt Stmt.Result World Env Request Status Response :=
  server cfg fun _ => True

/-! ## What is claimed -/

/-- The run is active with the key of the request at each statement of the call, as it
is when the call starts after its creation and ends before its termination. -/
def ActiveThroughout (w : World) (i : Nat) (req : StartWorkflowRequest) (runId : Uuid)
    (trace : List Ran) : Prop :=
  ¬ Did store w i (fun _ before _ => ¬ before.Active runId req.ns req.externalId) trace

/-- At most one run is active for a key.  An answer carries a run that was active with
the key during the call, and that is the run, and is said to exist already, that was
active throughout. -/
def StartIsIdempotent (cfg : Config)
    (S : Service Stmt Stmt.Result World Env Request Status Response) : Prop :=
  ∀ (w : World) (p : ServerState), Steps S (.init w []) p →
    (∀ ns externalId runId runId', p.store.Active runId ns externalId →
      p.store.Active runId' ns externalId → runId = runId') ∧
    ∀ (i : Nat) (req : StartWorkflowRequest) (text : String) (existed : Bool),
      p.returned i = some (.startWorkflow req, .startWorkflow text existed) →
        (∃ runId, text = cfg.uuidText runId ∧
          Did store w i (fun _ _ after => after.Active runId req.ns req.externalId) p.trace) ∧
        ∀ runId, ActiveThroughout w i req runId p.trace →
          text = cfg.uuidText runId ∧ existed = true

/-! ## The index -/

/-- The unique index over the runs that are not over. -/
theorem active_unique {w : World} {ns externalId : String} {runId runId' : Uuid}
    (h : w.Active runId ns externalId) (h' : w.Active runId' ns externalId) : runId = runId' := by
  obtain ⟨r, hr, hns, hx, hs⟩ := h
  obtain ⟨r', hr', hns', hx', hs'⟩ := h'
  have hclash : RunRow.Clash r r' :=
    .inr (.inr ⟨hs, hs', hns.trans hns'.symm, hx.trans hx'.symm⟩)
  have heq := w.db.runs.eq_of_clash (Db.mem_of_run hr) (Db.mem_of_run hr') hclash
  rw [← Db.runId_of_run hr, ← Db.runId_of_run hr', heq]

/-- A run that is created is active afterwards, and no other with its key was before. -/
theorem createWorkflow_ok {params : CreateWorkflow} {e : Env} {w : World} {runId : Uuid}
    (h : (store.exec e (.createWorkflow params) w).1 = .ok runId) :
    (store.exec e (.createWorkflow params) w).2.Active runId params.ns params.externalId ∧
      ∀ other, ¬ w.Active other params.ns params.externalId := by
  have hstmt : ((Stmt.createWorkflow params).exec e w.db).1 = .ok runId := h
  have hsql := Stmt.exec_ok hstmt
  rw [hsql] at hstmt
  show (∃ r, ((Stmt.createWorkflow params).exec e w.db).2.run runId = some r ∧ _) ∧ _
  rw [hsql]
  simp only [Stmt.sql, createWorkflow] at hstmt ⊢
  split
  next href =>
    rw [if_pos href] at hstmt
    cases hi : w.db.runs.insert? (RunRow.created params e.began) with
    | none =>
        simp only [Db.insertRun, hi] at hstmt
        cases hstmt
    | some runs =>
        obtain ⟨-, -, hclash⟩ := Table.insert?_eq_some hi
        have hget : runs.get? params.runId = if params.runId = params.runId
            then some (RunRow.created params e.began) else w.db.runs.get? params.runId :=
          Table.get?_insert? hi params.runId
        rw [if_pos rfl] at hget
        refine ⟨?_, ?_⟩
        · simp only [Db.insertRun, hi] at hstmt ⊢
          cases hp : w.db.payloads.insert? ⟨(RunRow.created params e.began).runId, params.input, none⟩
            with
          | none =>
              simp only [hp] at hstmt
              cases hstmt
          | some payloads =>
              simp only [hp] at hstmt ⊢
              obtain rfl := Except.ok.inj hstmt
              exact ⟨_, hget, rfl, rfl, rfl⟩
        · rintro other ⟨r, hr, hns, hx, hs⟩
          exact hclash r (Db.mem_of_run hr) (.inr (.inr ⟨hs, rfl, hns, hx⟩))
  next href =>
    rw [if_neg href] at hstmt
    cases hstmt

/-- The query finds an active run with the key, and changes nothing. -/
theorem findActive_ok {ns externalId : String} {e : Env} {w : World} {runId : Uuid}
    (h : (store.exec e (.findActiveByExternalId ns externalId) w).1 = .ok (some runId)) :
    w.Active runId ns externalId ∧
      (store.exec e (.findActiveByExternalId ns externalId) w).2.Active runId ns externalId := by
  have hstmt : ((Stmt.findActiveByExternalId ns externalId).exec e w.db).1 = .ok (some runId) := h
  have hsql := Stmt.exec_ok hstmt
  rw [hsql] at hstmt
  obtain ⟨r, hfind, rfl⟩ := Option.map_eq_some_iff.mp (Except.ok.inj hstmt)
  have hprops := List.find?_some hfind
  simp only [Bool.and_eq_true, decide_eq_true_eq, Bool.not_eq_true'] at hprops
  have hr : w.run r.runId = some r := Db.run_of_mem (List.mem_of_find?_eq_some hfind)
  have hactive : w.Active r.runId ns externalId := ⟨r, hr, hprops.1.1, hprops.1.2, hprops.2⟩
  refine ⟨hactive, ?_⟩
  show ∃ r', ((Stmt.findActiveByExternalId ns externalId).exec e w.db).2.run r.runId = some r' ∧ _
  rw [hsql]
  exact hactive

/-! ## The deciding statement -/

/-- A statement of the call decides the answer: the run is active after it, and is the
only one with the key that can have been active before, in which case it existed. -/
def Decided (w : World) (i : Nat) (req : StartWorkflowRequest) (runId : Uuid) (existed : Bool)
    (trace : List Ran) : Prop :=
  Did store w i (fun _ before after => after.Active runId req.ns req.externalId ∧
    ∀ other, before.Active other req.ns req.externalId → other = runId ∧ existed = true) trace

/-- Every statement is allowed. -/
abbrev free : Condition Stmt Stmt.Result World Env := fun _ _ _ _ => True

section Judgements
variable {cfg : Config} {w : World} {i : Nat}

/-- The past is known throughout. -/
theorem replayed_kept (w : World) : Invariant store (Replayed store w) :=
  replayed_invariant store store rfl w

theorem sat_past {ε α : Type} (c : Prog Stmt Stmt.Result ε α) :
    Sat store free i (Replayed store w) c (fun _ => Replayed store w) fun _ => Replayed store w :=
  Sat.of_invariant (fun _ _ _ => trivial) (replayed_kept w).restrict

/-- The insertion decides, if it succeeds. -/
theorem sat_create (req : StartWorkflowRequest) {params : CreateWorkflow} (max : Nat)
    (hns : params.ns = req.ns) (hx : params.externalId = req.externalId) :
    Sat store free i (Replayed store w) (WorkflowRepository.create max params)
      (fun runId m => Decided w i req runId false m.trace) fun _ => Replayed store w := by
  refine Sat.bind (sat_past _) fun _ => ?_
  have hcreate : Sat store free i (Replayed store w) (sql (.createWorkflow params))
      (fun runId m => Decided w i req runId false m.trace ∧ Replayed store w m)
      fun _ => Replayed store w := by
    refine sat_sql_learn (fun _ _ _ _ => trivial) (replayed_kept w).restrict
      (fun _ => did_invariant) fun e m runId hm _ hres => ?_
    obtain ⟨hafter, hbefore⟩ := createWorkflow_ok hres
    rw [hns, hx] at hafter hbefore
    exact hm.did ⟨hafter, fun other h => absurd h (hbefore other)⟩
  exact hcreate.mono (fun _ h => h) (fun _ _ h => h.1) fun _ _ h => h

/-- The query decides, if it finds a run. -/
theorem sat_findActive (req : StartWorkflowRequest) :
    Sat store free i (Replayed store w) (stmt (.findActiveByExternalId req.ns req.externalId))
      (fun found m => ∀ runId, found = some runId → Decided w i req runId true m.trace)
      (fun _ _ => True) := by
  have hfind : Sat store free i (Replayed store w)
      (sql (.findActiveByExternalId req.ns req.externalId))
      (fun found m => (∀ runId, found = some runId → Decided w i req runId true m.trace) ∧
        Replayed store w m) fun _ => Replayed store w := by
    refine sat_sql_learn (fun _ _ _ _ => trivial) (replayed_kept w).restrict
      (fun found j e q m h ha runId heq => did_invariant j e q m (h runId heq) ha) ?_
    rintro e m found hm - hres runId rfl
    obtain ⟨hbefore, hafter⟩ := findActive_ok hres
    exact hm.did ⟨hafter, fun other h => ⟨active_unique h hbefore, rfl⟩⟩
  exact (hfind.mapError fun _ _ _ => trivial).mono (fun _ h => h) (fun _ _ h => h.1) fun _ _ h => h

theorem sat_startWorkflow (req : StartWorkflowRequest) :
    Sat store free i (Replayed store w) (WorkflowService.startWorkflow cfg req)
      (fun resp m => ∃ runId existed, resp = .startWorkflow (cfg.uuidText runId) existed ∧
        Decided w i req runId existed m.trace) (fun _ _ => True) := by
  refine sat_requireNonEmpty_bind ?_ fun _ _ _ => trivial
  refine sat_requireNonEmpty_bind ?_ fun _ _ _ => trivial
  refine sat_requireNonEmpty_bind ?_ fun _ _ _ => trivial
  refine sat_requireNonEmpty_bind ?_ fun _ _ _ => trivial
  refine Sat.bind ((sat_past _).mono (fun _ h => h) (fun _ _ h => h) fun _ _ _ => trivial) fun _ => ?_
  refine Sat.bind ((sat_past _).mono (fun _ h => h) (fun _ _ h => h) fun _ _ _ => trivial)
    fun runId => ?_
  refine Sat.bind (P := fun r m => (∀ id, r = .ok id → Decided w i req id false m.trace) ∧
      ∀ x, r = .error x → Replayed store w m)
    ((sat_create req cfg.payloadMaxSizeBytes rfl rfl).attempt ?_ ?_) fun created => ?_
  · rintro id m h
    exact ⟨fun id' heq => Except.ok.inj heq ▸ h, fun x heq => by cases heq⟩
  · rintro x m h
    exact ⟨fun id heq => (by cases heq), fun _ _ => h⟩
  cases created with
  | ok id =>
      have hnotify : Sat store free i (fun m => Decided w i req id false m.trace)
          (sql (.notify req.ns req.taskQueue)) (fun _ m => Decided w i req id false m.trace)
          fun _ m => Decided w i req id false m.trace :=
        Sat.of_invariant (fun _ _ _ => trivial) did_invariant
      exact Sat.bind ((hnotify.attempt (fun _ _ h => h) fun _ _ h => h).mono
        (fun _ h => h.1 id rfl) (fun _ _ h => h) fun _ _ h => h)
        fun _ m h => ⟨id, false, rfl, h⟩
  | error x =>
      dsimp only
      split
      next =>
        refine Sat.bind ((sat_findActive req).mono (fun _ h => h.2 x rfl) (fun _ _ h => h)
          fun _ _ h => h) fun found => ?_
        refine sat_orFail_bind (fun id hid m h => ?_) fun _ _ => trivial
        exact ⟨id, true, rfl, h id hid⟩
      next => exact fun _ _ => trivial

end Judgements

/-! ## The result -/

theorem serves (cfg : Config) (w : World) :
    Serves (service cfg) free (Replayed store w)
      (fun i req resp m => ∀ r, req = .startWorkflow r → ∃ runId existed,
        resp = .startWorkflow (cfg.uuidText runId) existed ∧ Decided w i r runId existed m.trace)
      (fun _ _ _ _ => True) := by
  intro i req _
  refine ⟨Replayed store w, (replayed_kept w).restrict.stable, fun _ h _ => h, ?_⟩
  by_cases h : ∃ r, req = .startWorkflow r
  · obtain ⟨r, rfl⟩ := h
    refine (sat_startWorkflow r).mono (fun _ h => h) (fun _ _ hm r' heq => ?_) fun _ _ h => h
    obtain rfl := Request.startWorkflow.inj heq
    exact hm
  · exact (sat_past _).mono (fun _ h => h) (fun _ _ _ r heq => absurd ⟨r, heq⟩ h)
      fun _ _ _ => trivial

/-- Starting a run is idempotent. -/
theorem start_is_idempotent (cfg : Config) : StartIsIdempotent cfg (service cfg) := by
  intro w p h
  refine ⟨fun _ _ _ _ => active_unique, fun i req text existed hreturned => ?_⟩
  have hinv : Invariant ((service cfg).toEngine.restrict free) (Replayed store w) :=
    (replayed_kept w).restrict
  have hstart : Replayed store w ⟨w, []⟩ := rfl
  obtain ⟨-, hsound⟩ := h.sound (serves cfg w) hinv hstart (sound_nil w)
  obtain ⟨runId, existed', hresp, hdecided⟩ :=
    hsound.result (Pool.calls_of_returned hreturned) req rfl
  obtain ⟨rfl, rfl⟩ := Response.startWorkflow.inj hresp
  refine ⟨⟨runId, rfl, hdecided.mono fun _ _ _ h => h.1⟩, fun other hthrough => ?_⟩
  obtain ⟨later, ran, earlier, htrace, hcaller, -, honly⟩ := hdecided
  by_cases hactive : (store.replay w earlier).Active other req.ns req.externalId
  · obtain ⟨rfl, hexisted⟩ := honly other hactive
    exact ⟨rfl, hexisted⟩
  · exact absurd ⟨later, ran, earlier, htrace, hcaller, hactive⟩ hthrough

end Idempotence

end Kagzi
