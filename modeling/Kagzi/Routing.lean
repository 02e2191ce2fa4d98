import Kagzi.Sdk.Builder
import Kagzi.Server.Footprint
import Kagzi.Store.RunChange

/-!
# Which worker a run goes to

A poll takes runs of one namespace, one queue and some workflow types.  The client and
the schedules of the SDK put a run into the queue that has the name of its type.  A worker
polls the queue of its first type only.

The route of a run stays as it was created (`Had.unique`), and an instance has the
route of its template.  So a poll can take a run exactly if its type is the first of
the worker (`routed_iff_first`).
-/

namespace Kagzi

open Atomic Relational Sdk

/-- What decides which polls can take a run. -/
structure Route where
  ns : String
  taskQueue : String
  workflowType : String
deriving DecidableEq

def RunRow.route (r : RunRow) : Route := ⟨r.ns, r.taskQueue, r.workflowType⟩

def CreateWorkflow.route (params : CreateWorkflow) : Route :=
  ⟨params.ns, params.taskQueue, params.workflowType⟩

/-- The filters of a poll.  A poll without types takes all. -/
def PollTaskRequest.Takes (req : PollTaskRequest) (route : Route) : Prop :=
  route.ns = req.ns ∧ route.taskQueue = req.taskQueue ∧
    (req.workflowTypes = [] ∨ route.workflowType ∈ req.workflowTypes)

namespace Routing

/-- The server, for all requests. -/
abbrev service (cfg : Config) : Service Stmt Stmt.Result World Env Request Status Response :=
  server cfg fun _ => True

/-! ## What is claimed -/

/-- A statement of the call creates the run. -/
def CreatedBy (w : World) (i : Nat) (runId : Uuid) (trace : List Ran) : Prop :=
  Did store w i (fun _ before after => before.run runId = none ∧ (after.run runId).isSome) trace

/-- A statement of the call creates the run for the template. -/
def FiredBy (w : World) (i : Nat) (templateRunId runId : Uuid) (trace : List Ran) : Prop :=
  Did store w i (fun _ before after => before.run runId = none ∧
    ∃ r, after.run runId = some r ∧ r.scheduleId = some templateRunId) trace

/-- The run is started by the client of the SDK, or created by a schedule that it made,
in a namespace and with a workflow type. -/
inductive FromSdk (cfg : Config) (w : World) (p : ServerState) : String → String → Uuid → Prop where
  | started {b : StartWorkflowBuilder} {newId : String} {req : StartWorkflowRequest} {i : Nat}
      {c : Rpc Response} {runId : Uuid} :
      b.send newId = .ok req → p.calls[i]? = some (.startWorkflow req, c) →
      CreatedBy w i runId p.trace → FromSdk cfg w p b.ns b.workflowType runId
  | fired {b : ScheduleBuilder} {req : CreateWorkflowScheduleRequest} {i j : Nat}
      {c : Rpc Response} {templateRunId runId : Uuid} {workflowType : String} :
      b.send cfg = .ok req → b.workflowType = some workflowType →
      p.calls[i]? = some (.createWorkflowSchedule req, c) →
      CreatedBy w i templateRunId p.trace → FiredBy w j templateRunId runId p.trace →
      FromSdk cfg w p b.ns workflowType runId

/-- The polls of a worker can take every run of its namespace that comes from the SDK
and has one of its workflow types. -/
def RoutingAgrees (cfg : Config) : Prop :=
  ∀ (w : World) (p : ServerState), Steps (service cfg) (.init w []) p →
    ∀ (b : WorkerBuilder) (worker : Worker) (workerId : String) (poll : PollTaskRequest),
      b.build = .ok worker → worker.pollRequest workerId = some poll →
        ∀ (workflowType : String) (runId : Uuid) (r : RunRow),
          FromSdk cfg w p worker.ns workflowType runId → workflowType ∈ worker.workflowTypes →
            p.store.run runId = some r → poll.Takes r.route

/-! ## The route of a run -/

/-- The run had the route at some moment. -/
def Had (w : World) (runId : Uuid) (route : Route) (trace : List Ran) : Prop :=
  ∃ later earlier, trace = later ++ earlier ∧
    ∃ r, (store.replay w earlier).run runId = some r ∧ r.route = route

section Routes
variable {w : World} {i : Nat} {e : Env} {q : Stmt} {m : Now} {runId : Uuid} {route : Route}

theorem Had.cons {trace : List Ran} (ran : Ran) (h : Had w runId route trace) :
    Had w runId route (ran :: trace) := by
  obtain ⟨later, earlier, rfl, h⟩ := h
  exact ⟨ran :: later, earlier, rfl, h⟩

theorem had_cons {ran : Ran} {trace : List Ran} (h : Had w runId route (ran :: trace)) :
    (∃ r, (store.replay w (ran :: trace)).run runId = some r ∧ r.route = route) ∨
      Had w runId route trace := by
  obtain ⟨later, earlier, htrace, h⟩ := h
  cases later with
  | nil =>
      obtain rfl : ran :: trace = earlier := htrace
      exact .inl h
  | cons _ later => exact .inr ⟨later, earlier, (List.cons.inj htrace).2, h⟩

theorem had_now (hm : Replayed store w m) {r : RunRow} (h : m.store.run runId = some r) :
    Had w runId r.route m.trace :=
  ⟨[], m.trace, rfl, r, by rwa [← show m.store = store.replay w m.trace from hm], rfl⟩

/-- No statement changes the route of a run. -/
theorem route_of_change {old new : RunRow} (h : RunChange e q (some old) (some new)) :
    new.route = old.route := by
  cases h <;> rfl

/-- A run that had the route has it, or is gone for good. -/
def Kept (w : World) (m : Now) : Prop :=
  ∀ runId route, Had w runId route m.trace →
    (∃ r, m.store.run runId = some r ∧ r.route = route) ∨
      (m.store.run runId = none ∧ runId ∈ m.store.retired)

/-- A run has had one route only. -/
def OneRoute (w : World) (m : Now) : Prop :=
  ∀ runId route route', Had w runId route m.trace → Had w runId route' m.trace → route = route'

/-- What is known of the past of the store. -/
structure Known (w : World) (m : Now) : Prop where
  past : Replayed store w m
  kept : Kept w m
  one : OneRoute w m

theorem kept_after (hm : Replayed store w m) (h : Kept w m) (ha : store.admits i e q m) :
    Kept w (m.after store i e q) := by
  intro runId route hhad
  rcases had_cons hhad with ⟨r, hr, hroute⟩ | hhad
  · rw [Engine.replay, ← show m.store = store.replay w m.trace from hm] at hr
    exact .inl ⟨r, hr, hroute⟩
  · have hkeeps : m.store.Keeps runId fun r => r.route = route := h runId route hhad
    exact hkeeps.exec (fun _ _ hold hc => (route_of_change hc).trans hold) ha.2.1

theorem known_invariant (w : World) : Invariant store (Known w) := by
  intro i e q m hm ha
  have hpast := replayed_invariant store store rfl w i e q m hm.past ha
  have hkept := kept_after hm.past hm.kept ha
  refine ⟨hpast, hkept, fun runId route route' hhad hhad' => ?_⟩
  -- a route of now is the one it had before
  have hnow : ∀ {r : RunRow} {route : Route},
      (store.replay w (⟨i, e, q, (store.exec e q m.store).1⟩ :: m.trace)).run runId = some r →
        Had w runId route (m.after store i e q).trace → r.route = route := by
    intro r route hr hhad
    have hr : (m.after store i e q).store.run runId = some r := by
      rwa [show (m.after store i e q).store = _ from hpast]
    rcases hkept runId route hhad with ⟨r', hr', hroute⟩ | ⟨hnone, -⟩
    · rw [hr] at hr'
      rw [Option.some.inj hr', hroute]
    · rw [hr] at hnone
      cases hnone
  rcases had_cons hhad with ⟨r, hr, rfl⟩ | hold
  · exact hnow hr hhad'
  · rcases had_cons hhad' with ⟨r, hr, rfl⟩ | hold'
    · exact (hnow hr hhad).symm
    · exact hm.one runId route route' hold hold'

theorem known_start (w : World) : Known w ⟨w, []⟩ := by
  have hstart : ∀ {runId route}, Had w runId route [] → ∃ r, w.run runId = some r ∧ r.route = route := by
    rintro runId route ⟨later, earlier, htrace, h⟩
    obtain ⟨-, rfl⟩ := List.append_eq_nil_iff.mp htrace.symm
    exact h
  refine ⟨rfl, fun runId route h => .inl (hstart h), fun runId route route' h h' => ?_⟩
  obtain ⟨r, hr, rfl⟩ := hstart h
  obtain ⟨r', hr', rfl⟩ := hstart h'
  rw [hr] at hr'
  rw [Option.some.inj hr']

end Routes

/-! ## Where the routes come from -/

/-- A run that is created for a template has its route. -/
def Copies (w : World) : Condition Stmt Stmt.Result World Env := fun _ _ q m =>
  match q with
  | .createWorkflow params =>
      ∀ templateRunId, params.scheduleId = some templateRunId →
        Had w templateRunId params.route m.trace
  | _ => True

/-- The statement creates runs of this route only. -/
def Gives (route : Route) : Stmt → Prop
  | .createWorkflow params => params.route = route
  | .createScheduleInstance .. => False
  | _ => True

/-- The runs that a request creates have the route that it names. -/
def routeRule (req : Request) : Stmt → Prop :=
  match req with
  | .startWorkflow req => Gives ⟨req.ns, req.taskQueue, req.workflowType⟩
  | .createWorkflowSchedule req => Gives ⟨req.ns, req.taskQueue, req.workflowType⟩
  | _ => fun _ => True

section Rules
variable {cfg : Config} {route : Route}

theorem gives_getOrCreate (ns : String) : (NamespaceRepository.getOrCreate ns).Uses (Gives route) := by
  refine (uses_sql trivial).bind fun found => ?_
  cases found with
  | some _ => trivial
  | none => exact (uses_sql trivial).bind fun now => uses_sql trivial

theorem gives_create {params : CreateWorkflow} (max : Nat) (h : params.route = route) :
    (WorkflowRepository.create max params).Uses (Gives route) :=
  (Prog.uses_ofExcept _).bind fun _ => uses_sql h

theorem gives_startWorkflow (req : StartWorkflowRequest) :
    (WorkflowService.startWorkflow cfg req).Uses
      (Gives ⟨req.ns, req.taskQueue, req.workflowType⟩) := by
  refine uses_requireNonEmpty_bind (uses_requireNonEmpty_bind (uses_requireNonEmpty_bind
    (uses_requireNonEmpty_bind ?_)))
  refine (uses_call (gives_getOrCreate _)).bind fun _ => (uses_stmt trivial).bind fun runId => ?_
  refine Prog.Uses.bind (Prog.Uses.attempt (gives_create _ ?_)) fun created => ?_
  · rfl
  cases created with
  | ok id => exact Prog.Uses.bind (uses_sql trivial).attempt fun _ => trivial
  | error e =>
      dsimp only
      split
      next =>
        refine (uses_stmt trivial).bind fun existing => ?_
        exact (uses_orFail _ _).bind fun _ => trivial
      next => trivial

theorem gives_createWorkflowSchedule (req : CreateWorkflowScheduleRequest) :
    (ScheduleService.createWorkflowSchedule cfg req).Uses
      (Gives ⟨req.ns, req.taskQueue, req.workflowType⟩) := by
  have hanswer : ∀ w, (ScheduleService.answer cfg w).Uses
      (Gives ⟨req.ns, req.taskQueue, req.workflowType⟩) :=
    fun w => (Prog.uses_ofExcept _).bind fun _ => trivial
  refine uses_requireNonEmpty_bind (uses_requireNonEmpty_bind (uses_requireNonEmpty_bind
    (uses_requireNonEmpty_bind (uses_requireNonEmpty_bind ?_))))
  refine (uses_call (gives_getOrCreate _)).bind fun _ => (uses_stmt trivial).bind fun now => ?_
  refine (Prog.uses_ofExcept _).bind fun firstFire => (uses_stmt trivial).bind fun existing => ?_
  cases existing with
  | some existingRunId =>
      refine (uses_stmt trivial).bind fun found => (uses_orFail _ _).bind fun existing => ?_
      exact Prog.Uses.bind (uses_stmt trivial) fun _ => hanswer _
  | none =>
      refine (uses_stmt trivial).bind fun runId => ?_
      refine (uses_call (gives_create _ ?_)).bind fun _ => (uses_stmt trivial).bind fun found => ?_
      · rfl
      refine (uses_orFail _ _).bind fun template => ?_
      exact Prog.Uses.bind (uses_stmt trivial) fun _ => hanswer _

theorem routeRule_of_handle (req : Request) : (handle cfg req).Uses (routeRule req) := by
  cases req with
  | startWorkflow req => exact gives_startWorkflow req
  | createWorkflowSchedule req => exact gives_createWorkflowSchedule req
  | _ => exact (handle_uses cfg _).mono fun _ _ => trivial

end Rules

/-! ## The trigger copies the route of the template -/

section Judgements
variable {cfg : Config} {w : World} {i : Nat}

theorem known_kept (w : World) : Invariant (store.restrict (Copies w)) (Known w) :=
  (known_invariant w).restrict

theorem sat_spares {α : Type} {p : Rpc α} (h : p.Uses fun q => q.sparesRuns = true) :
    Sat store (Copies w) i (Known w) p (fun _ => Known w) fun _ => Known w := by
  refine Sat.of_uses h (known_kept w).stable fun e q m hq hm ha => ?_
  have hcopies : Copies w i e q m := by
    cases q with
    | createWorkflow params => cases hq
    | _ => trivial
  exact ⟨hcopies, known_invariant w i e q m hm ha⟩

theorem sat_find (runId : Uuid) (ns scheduleId : String) :
    Sat store (Copies w) i (Known w) (ScheduleService.find runId ns scheduleId)
      (fun found m => Had w runId ⟨ns, found.taskQueue, found.workflowType⟩ m.trace ∧ Known w m)
      fun _ _ => True := by
  have hread : Sat store (Copies w) i (Known w) (sql (.findById runId ns))
      (fun found m => (∀ t, found = some t →
        Had w runId ⟨ns, t.taskQueue, t.workflowType⟩ m.trace) ∧ Known w m) fun _ => Known w := by
    refine sat_sql_learn (fun _ _ _ _ => trivial) (known_kept w)
      (fun found j e q m h ha t heq => (h t heq).cons _) fun e m found hm ha hres t heq => ?_
    subst heq
    obtain ⟨hrun, -, hns⟩ := run_of_findById hres
    have hroute : t.toRunRow.route = ⟨ns, t.taskQueue, t.workflowType⟩ := by
      rw [← hns]
      rfl
    exact (hroute ▸ had_now hm.past hrun).cons _
  refine Sat.bind (hread.mapError fun _ _ _ => trivial) fun found => ?_
  cases found with
  | none => exact fun _ _ => trivial
  | some t => exact fun m hm => ⟨hm.1 t rfl, hm.2⟩

theorem sat_create {K : Now → Prop} {params : CreateWorkflow} (max : Nat)
    (h : ∀ m, K m → ∀ templateRunId, params.scheduleId = some templateRunId →
      Had w templateRunId params.route m.trace) :
    Sat store (Copies w) i K (WorkflowRepository.create max params) (fun _ _ => True)
      fun _ _ => True := by
  refine Sat.ofExcept_bind (fun _ _ => ?_) fun _ _ _ => trivial
  exact sat_sql (fun _ => stable_true) fun e m hm ha => ⟨h m hm, fun _ _ => trivial⟩

theorem sat_trigger (req : ScheduleRequest) :
    Sat store (Copies w) i (Known w) (ScheduleService.triggerWorkflowSchedule cfg req)
      (fun _ _ => True) fun _ _ => True := by
  refine sat_uuid_bind (fun scheduleId _ => ?_) fun _ _ _ => trivial
  refine sat_requireNonEmpty_bind ?_ fun _ _ _ => trivial
  refine Sat.bind (sat_find scheduleId req.ns req.scheduleId) fun found => ?_
  have hkept : Invariant (store.restrict (Copies w)) fun m =>
      Had w scheduleId ⟨req.ns, found.taskQueue, found.workflowType⟩ m.trace ∧ Known w m :=
    fun j e q m hm ha => ⟨hm.1.cons _, known_kept w j e q m hm.2 ha⟩
  have hnew : Sat store (Copies w) i (fun m =>
      Had w scheduleId ⟨req.ns, found.taskQueue, found.workflowType⟩ m.trace ∧ Known w m)
      (stmt .newUuid) (fun _ m =>
        Had w scheduleId ⟨req.ns, found.taskQueue, found.workflowType⟩ m.trace ∧ Known w m)
      fun _ _ => True := by
    have huses : (stmt .newUuid).Uses fun q => q = .newUuid := uses_stmt rfl
    refine (Sat.of_uses huses hkept.stable ?_).mono (fun _ h => h) (fun _ _ h => h)
      fun _ _ _ => trivial
    rintro e q m rfl hm ha
    exact ⟨trivial, hkept i e _ m hm ⟨ha, trivial⟩⟩
  refine Sat.bind hnew fun runId => ?_
  refine Sat.bind ((sat_create _ fun m hm templateRunId heq => ?_).mapError fun _ _ _ => trivial)
    fun _ _ _ => trivial
  obtain rfl := Option.some.inj heq
  exact hm.1

end Judgements

/-! ## The result -/

/-- The statements of all requests copy the routes of templates. -/
theorem serves (cfg : Config) (w : World) :
    Serves (service cfg) (Copies w) (Known w) (fun _ _ _ _ => True) fun _ _ _ _ => True := by
  intro i req _
  refine ⟨Known w, (known_kept w).stable, fun _ hm _ => hm, ?_⟩
  by_cases h : ∃ r, req = .triggerWorkflowSchedule r
  · obtain ⟨r, rfl⟩ := h
    exact sat_trigger r
  · refine (Sat.of_uses (handle_uses cfg req) (known_kept w).stable fun e q m hq hm ha => ?_).mono
      (fun _ h => h) (fun _ _ _ => trivial) fun _ _ _ => trivial
    have hcopies : Copies w i e q m := by
      cases q with
      | createWorkflow params =>
          rcases hq with hnone | htrigger
          · intro templateRunId heq
            rw [hnone] at heq
            cases heq
          · exact absurd htrigger h
      | _ => trivial
    exact ⟨hcopies, known_invariant w i e q m hm ha⟩

/-- A statement that creates a run inserts it as it was asked to, or as a copy of a
template. -/
theorem creation_cases {e : Env} {q : Stmt} {db : Db} {runId : Uuid} {r : RunRow}
    (hnone : db.run runId = none) (hsome : (q.exec e db).2.run runId = some r) :
    (∃ params, q = .createWorkflow params ∧ r = RunRow.created params e.began) ∨
      ∃ t fireAt, q = .createScheduleInstance t.runId fireAt ∧ db.run t.runId = some t ∧
        r = t.instanceOf e.fresh fireAt e.now := by
  have hc := q.exec_run e db runId
  rw [hnone, hsome] at hc
  cases hc with
  | created => exact .inl ⟨_, rfl, rfl⟩
  | @instantiated t fireAt =>
      right
      rcases Stmt.exec_cases e (.createScheduleInstance t.runId fireAt) db with hx | hx
      · rw [hx, hnone] at hsome
        cases hsome
      · rw [hx] at hsome
        change (createScheduleInstance t.runId fireAt e db).2.run runId = _ at hsome
        unfold createScheduleInstance at hsome
        split at hsome
        next => rw [hnone] at hsome; cases hsome
        next t' ht' =>
          obtain hid := Db.runId_of_run ht'
          split at hsome
          next => rw [hnone] at hsome; cases hsome
          next =>
            rcases db.insertRun_run (t'.instanceOf e.fresh fireAt e.now)
              ((db.payloads.get? t.runId).map PayloadRow.input) runId with h | ⟨-, -, h⟩
            · rw [h, hnone] at hsome
              cases hsome
            · rw [h] at hsome
              exact ⟨t', fireAt, by rw [hid], hid.symm ▸ ht', (Option.some.inj hsome).symm⟩

section Origins
variable {cfg : Config} {w : World}

/-- An instance has the route of its template. -/
def Instances (w : World) (m : Now) : Prop :=
  ∀ j templateRunId runId, FiredBy w j templateRunId runId m.trace →
    ∃ route, Had w templateRunId route m.trace ∧ Had w runId route m.trace

theorem instances_invariant (w : World) :
    Invariant (store.restrict (Copies w)) fun m => Known w m ∧ Instances w m := by
  rintro i e q m ⟨hm, hinst⟩ ha
  have hm' := known_kept w i e q m hm ha
  refine ⟨hm', fun j templateRunId runId hfired => ?_⟩
  rcases did_cons hfired with ⟨-, hnone, r, hsome, htemplate⟩ | hold
  · have hpast : m.store = store.replay w m.trace := hm.past
    rw [Engine.replay, ← hpast] at hsome
    rw [← hpast] at hnone
    have hhad : Had w runId r.route (m.after store i e q).trace := had_now hm'.past hsome
    rcases creation_cases hnone hsome with ⟨params, rfl, rfl⟩ | ⟨t, fireAt, rfl, ht, rfl⟩
    · exact ⟨params.route, (ha.2 templateRunId htemplate).cons _, hhad⟩
    · obtain rfl := Option.some.inj htemplate
      exact ⟨t.route, (had_now hm.past ht).cons _, hhad⟩
  · obtain ⟨route, ht, hr⟩ := hinst j templateRunId runId hold
    exact ⟨route, ht.cons _, hr.cons _⟩

/-- A run that a request creates has the route that the request names. -/
theorem had_of_created {p : ServerState} {i : Nat} {req : Request} {c : Rpc Response}
    {runId : Uuid} {route : Route} (hasked : p.Asked routeRule) (hreq : p.calls[i]? = some (req, c)) (hgives : routeRule req = Gives route)
    (h : CreatedBy w i runId p.trace) : Had w runId route p.trace := by
  obtain ⟨later, ran, earlier, htrace, rfl, hnone, hsome⟩ := h
  obtain ⟨req', c', hreq', hrule⟩ := hasked ran (by simp [htrace])
  rw [hreq] at hreq'
  obtain ⟨rfl, -⟩ := Prod.mk.inj (Option.some.inj hreq')
  rw [hgives] at hrule
  obtain ⟨r, hr⟩ := Option.isSome_iff_exists.mp hsome
  have hhad : Had w runId r.route p.trace :=
    ⟨later, ran :: earlier, htrace, r, hr, rfl⟩
  rcases creation_cases hnone hr with ⟨params, hq, rfl⟩ | ⟨t, fireAt, hq, -, -⟩
  · rw [hq] at hrule
    exact hrule ▸ hhad
  · rw [hq] at hrule
    exact hrule.elim

/-- The SDK puts a run into the queue that has the name of its type. -/
theorem route_of_fromSdk {p : ServerState} {ns workflowType : String} {runId : Uuid} {r : RunRow}
    (hasked : p.Asked routeRule) (hknown : Known w p.toMoment) (hinst : Instances w p.toMoment)
    (h : FromSdk cfg w p ns workflowType runId) (hr : p.store.run runId = some r) :
    r.route = ⟨ns, workflowType, workflowType⟩ := by
  have hnow : Had w runId r.route p.trace := had_now hknown.past hr
  cases h with
  | started hsend hreq hcreated =>
      obtain ⟨hns, hqueue, htype⟩ := StartWorkflowBuilder.of_send hsend
      have hhad := had_of_created hasked hreq rfl hcreated
      rw [hns, hqueue, htype] at hhad
      exact hknown.one _ _ _ hnow hhad
  | fired hsend htype hreq hcreated hfired =>
      obtain ⟨hns, hqueue, htype'⟩ := ScheduleBuilder.of_send hsend
      obtain rfl := Option.some.inj (htype.symm.trans htype')
      have hhad := had_of_created hasked hreq rfl hcreated
      rw [hns, hqueue] at hhad
      obtain ⟨route, ht, hi⟩ := hinst _ _ _ hfired
      rw [hknown.one _ _ _ hnow hi]
      exact hknown.one _ _ _ ht hhad

end Origins

/-! ## The second type of a worker -/

/-- A run of the type `second` is started. -/
def startSecond : List (Action Env Request) :=
  [.start (.startWorkflow ⟨"job", "second", "second", none, "default", "", none⟩)] ++
    runs 0 6 (.quiet 0 1)

/-- The state after it. -/
def started : ServerState := fireAll (service .sample) (.init (.empty 0) []) startSecond

theorem started_length : 1 < started.trace.length := by decide +kernel

/-- The statement that creates the run, and those before it. -/
def creation : Ran := started.trace.get ⟨1, started_length⟩

def before : List Ran := started.trace.drop 2

theorem started_trace : started.trace = started.trace.take 1 ++ creation :: before := by
  unfold creation before
  rw [List.get_eq_getElem, List.getElem_cons_drop, List.take_append_drop]

theorem started_fromSdk : FromSdk .sample (.empty 0) started "default" "second" 1 := by
  have hcalls : started.calls[0]?.map Prod.fst =
      some (.startWorkflow ⟨"job", "second", "second", none, "default", "", none⟩) := by
    decide +kernel
  obtain ⟨⟨req, c⟩, hget, hreq⟩ := Option.map_eq_some_iff.mp hcalls
  obtain rfl : req = _ := hreq
  have hnone : (store.replay (.empty 0) before).run 1 = none := by decide +kernel
  have hsome : ((store.replay (.empty 0) (creation :: before)).run 1).isSome := by decide +kernel
  have hcaller : creation.caller = 0 := by decide +kernel
  have hsend : (Sdk.start "second").send "job" =
      .ok ⟨"job", "second", "second", none, "default", "", none⟩ := rfl
  exact .started hsend hget ⟨_, creation, before, started_trace, hcaller, hnone, hsome⟩

/-- A worker for two types polls the queue of the first, where the run is not. -/
theorem second_type_is_not_polled : ¬ RoutingAgrees .sample := by
  intro hagrees
  have h : Steps (service .sample) (.init (.empty 0) []) started :=
    AllEnabled.steps (by decide +kernel)
  have hqueue : (started.store.run 1).map RunRow.taskQueue = some "second" := by decide +kernel
  obtain ⟨r, hr, hqueue⟩ := Option.map_eq_some_iff.mp hqueue
  have htakes := hagrees _ _ h (Sdk.worker ["first", "second"]) ⟨"default", none, none, none, ["first", "second"]⟩
    "5" ⟨"first", "5", "default", ["first", "second"]⟩ rfl rfl "second" 1 r started_fromSdk
    (by decide) hr
  have heq : r.taskQueue = "first" := htakes.2.1
  rw [hqueue] at heq
  exact absurd heq (by decide)

/-- The polls of a worker can take a run that comes from the SDK, with one of its
types, exactly if the type is its first. -/
theorem routed_iff_first {cfg : Config} {w : World} {p : ServerState}
    (h : Steps (service cfg) (.init w []) p) {worker : Worker} {workerId : String}
    {poll : PollTaskRequest} (hpoll : worker.pollRequest workerId = some poll) {workflowType : String} {runId : Uuid}
    {r : RunRow} (hsdk : FromSdk cfg w p worker.ns workflowType runId)
    (hmem : workflowType ∈ worker.workflowTypes) (hr : p.store.run runId = some r) :
    poll.Takes r.route ↔ worker.workflowTypes.head? = some workflowType := by
  obtain ⟨hsteps, -⟩ := h.sound (serves cfg w) (known_kept w) (known_start w) (sound_nil w)
  have hasked : p.Asked routeRule := by
    refine h.asked (fun req _ => routeRule_of_handle req) (fun i req c hget => ?_) fun ran hran => ?_
    · cases hget
    · cases hran
  have hinst : Known w p.toMoment ∧ Instances w p.toMoment := by
    refine hsteps.invariant (instances_invariant w) ⟨known_start w, ?_⟩
    rintro j templateRunId runId ⟨later, ran, earlier, htrace, -⟩
    have hnil : [] = later ++ ran :: earlier := htrace
    simp at hnil
  rw [route_of_fromSdk hasked hinst.1 hinst.2 hsdk hr]
  obtain ⟨primaryQueue, hhead, rfl⟩ := Option.map_eq_some_iff.mp hpoll
  rw [hhead]
  constructor
  · rintro ⟨-, hqueue, -⟩
    exact congrArg some hqueue.symm
  · intro hfirst
    exact ⟨rfl, (Option.some.inj hfirst).symm, .inr hmem⟩

/-- A worker that names the type first polls for the run. -/
theorem first_type_is_polled : ∃ r, started.store.run 1 = some r ∧
    PollTaskRequest.Takes ⟨"second", "5", "default", ["second", "first"]⟩ r.route := by
  have h : Steps (service .sample) (.init (.empty 0) []) started :=
    AllEnabled.steps (by decide +kernel)
  have hrun : (started.store.run 1).isSome := by decide +kernel
  obtain ⟨r, hr⟩ := Option.isSome_iff_exists.mp hrun
  have hpoll : Worker.pollRequest ⟨"default", none, none, none, ["second", "first"]⟩ "5" =
      some ⟨"second", "5", "default", ["second", "first"]⟩ := rfl
  exact ⟨r, hr, (routed_iff_first h hpoll started_fromSdk (by decide) hr).mpr rfl⟩

end Routing

end Kagzi
