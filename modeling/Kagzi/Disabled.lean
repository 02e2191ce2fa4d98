import Kagzi.Server.Reach

/-!
# Disabled namespaces

The schema says of a disabled namespace that no workflows can run in it.  Nothing
reads the flag but the handler that reports it: a run is created, and a run is
claimed, in a disabled namespace as in any other (`disabled_namespace_runs`).

A request to start a workflow, to retry one, to create or trigger a schedule or to
poll names the namespace in which it creates or claims a run, and the coordinator
creates a run in the namespace of the template.  Disabled namespaces are inert exactly
if that namespace is enabled whenever one of these handlers comes to its insertion or
its claim, or there is no room for the run and no run to claim (`inert_iff_heeded`).
-/

namespace Kagzi

open Atomic Relational

/-- The namespace is there and disabled. -/
def World.Disabled (w : World) (ns : String) : Prop :=
  ∃ r, w.db.namespaces.get? ns = some r ∧ r.enabled = false

namespace Disabled

/-- The server, for all requests. -/
abbrev service (cfg : Config) : Service Stmt Stmt.Result World Env Request Status Response :=
  server cfg fun _ => True

/-- The statement is a poll. -/
def isPoll : Stmt → Bool
  | .pollWorkflow .. => true
  | _ => false

/-- The statement creates a run of the namespace, or claims one. -/
def StartsIn (ns : String) (e : Env) (q : Stmt) (w : World) : Prop :=
  ∃ runId r, (store.exec e q w).2.run runId = some r ∧ r.ns = ns ∧
    (w.run runId = none ∨ (isPoll q = true ∧ w.run runId ≠ some r))

/-- While a namespace is disabled, no run of it is created and none is claimed.  `w`
is the store at the start. -/
def Inert (w : World) (trace : List Ran) : Prop :=
  ∀ later ran earlier, trace = later ++ ran :: earlier →
    ∀ ns, (store.replay w earlier).Disabled ns →
      ¬ StartsIn ns ran.env ran.query (store.replay w earlier)

/-- Disabled namespaces are inert in all runs of a service. -/
def AlwaysInert (S : Service Stmt Stmt.Result World Env Request Status Response) : Prop :=
  ∀ (w : World) (p : ServerState), Steps S (.init w []) p → Inert w p.trace

/-! ## The condition -/

/-- The namespace in which a request creates or claims runs. -/
def named : Request → Option String
  | .startWorkflow req => some req.ns
  | .retryWorkflow req => some req.ns
  | .createWorkflowSchedule req => some req.ns
  | .triggerWorkflowSchedule req => some req.ns
  | .pollTask req _ => some req.ns
  | _ => none

/-- The namespace in which the request is about to create or claim a run.  For the
coordinator it is that of the template. -/
def startsNext (req : Request) (q : Stmt) (w : World) : Option String :=
  match q with
  | .createWorkflow _ => named req
  | .pollWorkflow _ _ _ _ _ => named req
  | .createScheduleInstance template _ => (w.run template).map RunRow.ns
  | _ => none

/-- There is no room for the run that the statement would create, or no run that it could
claim. -/
def Futile (e : Env) (q : Stmt) (w : World) : Prop :=
  match q with
  | .createWorkflow params => w.db.refersWell (RunRow.created params e.began) = true →
      ¬ w.db.Fits (RunRow.created params e.began) (some params.input)
  | .createScheduleInstance template fireAt =>
      ∀ t, w.run template = some t → w.db.slotTaken template fireAt = false →
        ¬ w.db.Fits (t.instanceOf e.fresh fireAt e.now)
          ((w.db.payload template).map PayloadRow.input)
  | .pollWorkflow ns taskQueue workerId types secs =>
      ∀ r, w.db.picked ns taskQueue types e = some r →
        ¬ w.db.FitsInPlace (r.claim workerId secs e.now)
  | _ => True

/-- Where the request is about to create or claim a run, the namespace is enabled, or the
statement comes to nothing. -/
def Heeds (req : Request) (e : Env) (q : Stmt) (w : World) : Prop :=
  ∀ ns, startsNext req q w = some ns → w.Disabled ns → e.fault = true ∨ Futile e q w

/-! ## Insertions -/

section Insertions
variable {db : Db} {row : RunRow} {input : Option Bytes}

theorem insert_payload_iff {bytes : Bytes} :
    (∃ payloads, db.payloads.insert? ⟨row.runId, bytes, none⟩ = some payloads) ↔
      db.payload row.runId = none := by
  rw [Table.insert?_isSome_iff]
  constructor
  · rintro ⟨-, hfits⟩
    cases hp : db.payload row.runId with
    | none => rfl
    | some p => exact absurd (Table.key_of_get? hp) (hfits p (Table.mem_of_get? hp))
  · intro hnone
    refine ⟨trivial, fun p hp hid => ?_⟩
    have hget : db.payload p.runId = some p := Table.get?_of_mem hp
    rw [show p.runId = row.runId from hid, hnone] at hget
    cases hget

/-- A run that fits is inserted. -/
theorem insertRun_of_fits (h : db.Fits row input) :
    (∃ id, (db.insertRun row input).1 = .ok id) ∧
      (db.insertRun row input).2.run row.runId = some row := by
  obtain ⟨hvalid, hfits, hpayload⟩ := h
  obtain ⟨runs, hruns⟩ := Table.insert?_isSome_iff.mpr ⟨hvalid, hfits⟩
  have hget : runs.get? row.runId = some row := by
    rw [Table.get?_insert? hruns]
    exact if_pos rfl
  cases input with
  | none =>
      simp only [Db.insertRun, hruns]
      exact ⟨⟨_, rfl⟩, hget⟩
  | some bytes =>
      obtain ⟨payloads, hp⟩ : ∃ payloads,
          db.payloads.insert? ⟨row.runId, bytes, none⟩ = some payloads :=
        insert_payload_iff.mpr (hpayload rfl)
      simp only [Db.insertRun, hruns, hp]
      exact ⟨⟨_, rfl⟩, hget⟩

/-- A run that an insertion adds fits. -/
theorem fits_of_insertRun {runId : Uuid} {r : RunRow} (hnone : db.run runId = none)
    (h : (db.insertRun row input).2.run runId = some r) : db.Fits row input ∧ r = row := by
  have hrow : r = row := by
    rcases db.insertRun_run row input runId with hsame | ⟨-, -, hnew⟩
    · rw [hsame, hnone] at h
      cases h
    · exact Option.some.inj (h.symm.trans hnew)
  refine ⟨?_, hrow⟩
  unfold Db.insertRun at h
  split at h
  next => rw [hnone] at h; cases h
  next hruns =>
    obtain ⟨hvalid, hfits⟩ := Table.insert?_isSome_iff.mp ⟨_, hruns⟩
    exact ⟨hvalid, hfits, nofun⟩
  next runs bytes hruns =>
    obtain ⟨hvalid, hfits⟩ := Table.insert?_isSome_iff.mp ⟨_, hruns⟩
    split at h
    next => rw [hnone] at h; cases h
    next hp => exact ⟨hvalid, hfits, fun _ => insert_payload_iff.mp ⟨_, hp⟩⟩

end Insertions

/-! ## One statement -/

section Statements
variable {ns : String} {e : Env} {q : Stmt} {w : World}

/-- A statement that faults starts nothing. -/
theorem StartsIn.safe (h : StartsIn ns e q w) (hq : q.isLocal = false) : e.fault = false := by
  by_contra hfault
  obtain ⟨runId, r, hr, -, hstart⟩ := h
  have hsame : w.run runId = some r := by
    rw [store_exec_run, Stmt.exec_of_fault (by simpa using hfault) hq] at hr
    exact hr
  rcases hstart with hnone | ⟨-, hne⟩
  · rw [hnone] at hsame
    cases hsame
  · exact hne hsame

theorem createWorkflow_startsIn_iff {params : CreateWorkflow} :
    StartsIn ns e (.createWorkflow params) w ↔
      e.fault = false ∧ params.ns = ns ∧ w.db.refersWell (RunRow.created params e.began) = true ∧
        w.db.Fits (RunRow.created params e.began) (some params.input) := by
  constructor
  · intro h
    have hsafe := h.safe rfl
    obtain ⟨runId, r, hr, hns, hnone | ⟨hpoll, -⟩⟩ := h
    · rw [store_exec_run, Stmt.exec_of_safe hsafe] at hr
      simp only [Stmt.sql, createWorkflow] at hr
      split at hr
      next hrefers =>
        have hinsert : (w.db.insertRun (RunRow.created params e.began) (some params.input)).2.run runId
            = some r := by
          split at hr
          next hi => rwa [hi]
          next hi => rwa [hi]
        obtain ⟨hfits, rfl⟩ := fits_of_insertRun hnone hinsert
        exact ⟨hsafe, hns, hrefers, hfits⟩
      next => exact absurd (hr.symm.trans hnone) (by simp)
    · cases hpoll
  · rintro ⟨hsafe, rfl, hrefers, hfits⟩
    obtain ⟨⟨id, hok⟩, hrun⟩ := insertRun_of_fits hfits
    refine ⟨params.runId, RunRow.created params e.began, ?_, rfl, .inl ?_⟩
    · rw [store_exec_run, Stmt.exec_of_safe hsafe]
      simp only [Stmt.sql, createWorkflow, hrefers, if_true]
      split
      next hi => rwa [hi] at hrun
      next hi => rw [hi] at hok; cases hok
    · cases hrun' : w.run params.runId with
      | none => rfl
      | some r => exact absurd (.inl (Db.runId_of_run hrun')) (hfits.2.1 r (Db.mem_of_run hrun'))

theorem createScheduleInstance_startsIn_iff {template : Uuid} {fireAt : Int} :
    StartsIn ns e (.createScheduleInstance template fireAt) w ↔
      e.fault = false ∧ ∃ t, w.run template = some t ∧ t.ns = ns ∧
        w.db.slotTaken template fireAt = false ∧
          w.db.Fits (t.instanceOf e.fresh fireAt e.now)
            ((w.db.payload template).map PayloadRow.input) := by
  constructor
  · intro h
    have hsafe := h.safe rfl
    obtain ⟨runId, r, hr, hns, hnone | ⟨hpoll, -⟩⟩ := h
    · rw [store_exec_run, Stmt.exec_of_safe hsafe] at hr
      simp only [Stmt.sql, createScheduleInstance] at hr
      split at hr
      next => exact absurd (hr.symm.trans hnone) (by simp)
      next t ht =>
        split at hr
        next => exact absurd (hr.symm.trans hnone) (by simp)
        next hslot =>
          obtain ⟨hfits, rfl⟩ := fits_of_insertRun hnone hr
          exact ⟨hsafe, t, ht, hns, by simpa using hslot, hfits⟩
    · cases hpoll
  · rintro ⟨hsafe, t, ht, rfl, hslot, hfits⟩
    obtain ⟨-, hrun⟩ := insertRun_of_fits hfits
    refine ⟨e.fresh, t.instanceOf e.fresh fireAt e.now, ?_, rfl, .inl ?_⟩
    · rw [store_exec_run, Stmt.exec_of_safe hsafe]
      simp only [Stmt.sql, createScheduleInstance, show w.db.run template = some t from ht, hslot,
        Bool.false_eq_true, if_false]
      exact hrun
    · cases hrun' : w.run e.fresh with
      | none => rfl
      | some r => exact absurd (.inl (Db.runId_of_run hrun')) (hfits.2.1 r (Db.mem_of_run hrun'))

theorem pollWorkflow_startsIn_iff {ns' taskQueue workerId : String} {types : List String} {secs : Int} :
    StartsIn ns e (.pollWorkflow ns' taskQueue workerId types secs) w ↔
      e.fault = false ∧ ns' = ns ∧ ∃ r, w.db.picked ns' taskQueue types e = some r ∧
        w.db.FitsInPlace (r.claim workerId secs e.now) := by
  constructor
  · intro h
    have hsafe := h.safe rfl
    obtain ⟨runId, r', hr', hns, hstart⟩ := h
    have hchanged : w.run runId ≠ some r' := by
      rcases hstart with hnone | ⟨-, hne⟩
      · simp [hnone]
      · exact hne
    have hc := (Stmt.pollWorkflow ns' taskQueue workerId types secs).exec_run e w.db runId
    rw [show ((Stmt.pollWorkflow ns' taskQueue workerId types secs).exec e w.db).2.run runId
      = some r' from hr'] at hc
    have hns' : ns' = ns := by
      generalize hold : w.db.run runId = old at hc
      cases hc with
      | same => exact absurd hold hchanged
      | claimed hav =>
          simp only [RunRow.available, Bool.and_eq_true, decide_eq_true_eq] at hav
          exact hav.1.1.1.1.1.symm.trans hns
    rw [store_exec_run, Stmt.exec_of_safe hsafe] at hr'
    simp only [Stmt.sql, pollWorkflow] at hr'
    split at hr'
    next => exact absurd hr' hchanged
    next task htask =>
      have hrun := (Db.run_of_picked htask).1
      split at hr'
      next => exact absurd hr' hchanged
      next db' hu => exact ⟨hsafe, hns', task, htask,
          (Db.updateRuns_ok_iff hrun (by simp) (by simp) rfl).mp ⟨db', hu⟩⟩
  · rintro ⟨hsafe, rfl, r, hpicked, hfits⟩
    obtain ⟨hrun, hav⟩ := Db.run_of_picked hpicked
    obtain ⟨db', hu⟩ := (Db.updateRuns_ok_iff (p := fun x => x.runId = r.runId)
      (f := RunRow.claim workerId secs e.now) hrun (by simp) (by simp) rfl).mpr hfits
    have hnew := Db.updateRuns_run (f := RunRow.claim workerId secs e.now) (fun _ => rfl) hu r.runId
    rw [hrun, Option.map_some, amend_of_true (by simp)] at hnew
    simp only [RunRow.available, Bool.and_eq_true, decide_eq_true_eq] at hav
    refine ⟨r.runId, r.claim workerId secs e.now, ?_, hav.1.1.1.1.1, .inr ⟨rfl, fun hsame => ?_⟩⟩
    · rw [store_exec_run, Stmt.exec_of_safe hsafe]
      simp only [Stmt.sql, pollWorkflow,
        show earliest (w.db.runs.rows.filter (RunRow.available ns' taskQueue types e)) = some r
          from hpicked, hu]
      split <;> exact hnew
    · have hattempts := congrArg RunRow.attempts (Option.some.inj (hrun.symm.trans hsame))
      simp only [RunRow.claim] at hattempts
      omega

/-- A statement of another kind starts nothing. -/
theorem not_startsIn (hq : isPoll q = false) (hnew : q.newRun e = none) : ¬ StartsIn ns e q w := by
  rintro ⟨runId, r, hr, -, hnone | ⟨hpoll, -⟩⟩
  · have hc := q.exec_run e w.db runId
    rw [show w.db.run runId = none from hnone, show (q.exec e w.db).2.run runId = some r from hr] at hc
    cases hc with
    | created => cases hnew
    | instantiated => cases hnew
  · rw [hq] at hpoll
    cases hpoll

end Statements

/-! ## The handlers -/

/-- What a request may do to runs, and where. -/
def Acts (cfg : Config) (req : Request) (q : Stmt) : Prop := req.may cfg q ∧ req.reach cfg q

theorem handle_acts (cfg : Config) (req : Request) : (handle cfg req).Uses (Acts cfg req) :=
  (handle_uses cfg req).and (handle_reaches cfg req)

section Handlers
variable {cfg : Config} {req : Request}

/-- A request creates runs in the namespace that it names. -/
theorem named_of_creates {params : CreateWorkflow} (h : req.creates params) :
    named req = some params.ns := by
  cases req with
  | startWorkflow r => exact congrArg some (congrArg Work.ns h).symm
  | createWorkflowSchedule r => exact congrArg some (congrArg Work.ns h).symm
  | retryWorkflow r => exact congrArg some (Eq.symm h)
  | triggerWorkflowSchedule r => exact congrArg some (Eq.symm h)
  | _ => exact h.elim

/-- What a request does starts nothing in a disabled namespace exactly if it heeds the flag of
the namespace that it names. -/
theorem heeds_iff {e : Env} {q : Stmt} {w : World} (h : Acts cfg req q) :
    (∀ ns, w.Disabled ns → ¬ StartsIn ns e q w) ↔ Heeds req e q w := by
  have hfault : ∀ {ns}, StartsIn ns e q w → q.isLocal = false → ¬ e.fault = true := by
    intro ns hstarts hq hfault
    rw [hstarts.safe hq] at hfault
    cases hfault
  cases q with
  | createWorkflow params =>
      have hnamed : named req = some params.ns := named_of_creates h.2
      constructor
      · intro hinert ns hns hdis
        obtain rfl := Option.some.inj (hnamed.symm.trans hns)
        by_contra hheeds
        rw [not_or] at hheeds
        refine hheeds.2 fun hrefers hfits => hinert _ hdis (createWorkflow_startsIn_iff.mpr ?_)
        exact ⟨Bool.eq_false_iff.mpr hheeds.1, rfl, hrefers, hfits⟩
      · intro hheeds ns hdis hstarts
        obtain ⟨-, rfl, hrefers, hfits⟩ := createWorkflow_startsIn_iff.mp hstarts
        rcases hheeds _ hnamed hdis with hf | hfutile
        · exact hfault hstarts rfl hf
        · exact hfutile hrefers hfits
  | createScheduleInstance template fireAt =>
      constructor
      · intro hinert ns hns hdis
        by_contra hheeds
        rw [not_or] at hheeds
        refine hheeds.2 fun t ht hslot hfits => hinert ns hdis
          (createScheduleInstance_startsIn_iff.mpr ⟨Bool.eq_false_iff.mpr hheeds.1, t, ht, ?_,
            hslot, hfits⟩)
        simpa [startsNext, ht] using hns
      · intro hheeds ns hdis hstarts
        obtain ⟨-, t, ht, rfl, hslot, hfits⟩ := createScheduleInstance_startsIn_iff.mp hstarts
        rcases hheeds t.ns (congrArg (Option.map RunRow.ns) ht) hdis with hf | hfutile
        · exact hfault hstarts rfl hf
        · exact hfutile t ht hslot hfits
  | pollWorkflow ns' taskQueue workerId types secs =>
      obtain ⟨r, waits, rfl, rfl⟩ := h.2
      constructor
      · intro hinert ns hns hdis
        obtain rfl := Option.some.inj hns
        by_contra hheeds
        rw [not_or] at hheeds
        refine hheeds.2 fun x hpicked hfits => hinert _ hdis (pollWorkflow_startsIn_iff.mpr ?_)
        exact ⟨Bool.eq_false_iff.mpr hheeds.1, rfl, x, hpicked, hfits⟩
      · intro hheeds ns hdis hstarts
        obtain ⟨-, rfl, x, hpicked, hfits⟩ := pollWorkflow_startsIn_iff.mp hstarts
        rcases hheeds _ rfl hdis with hf | hfutile
        · exact hfault hstarts rfl hf
        · exact hfutile x hpicked hfits
  | _ =>
      refine ⟨fun _ ns hns => ?_, fun _ _ _ => not_startsIn rfl rfl⟩
      cases hns

end Handlers

/-! ## The result -/

/-- In every run of all requests, disabled namespaces are inert exactly if every request heeds
the flag of its namespace whenever it comes to create or claim a run. -/
theorem inert_iff_heeded (cfg : Config) (w : World) {p : ServerState}
    (h : Steps (service cfg) (.init w []) p) :
    Inert w p.trace ↔ ∀ later ran earlier, p.trace = later ++ ran :: earlier →
      ∀ req c, p.calls[ran.caller]? = some (req, c) →
        Heeds req ran.env ran.query (store.replay w earlier) := by
  have hasked : p.Asked (Acts cfg) :=
    h.asked (fun req _ => handle_acts cfg req) (fun _ _ _ hc => by cases hc)
      (by simp [Pool.Asked, Pool.init])
  constructor
  · intro hinert later ran earlier htrace req c hreq
    obtain ⟨req', c', hreq', hacts⟩ := hasked ran (by simp [htrace])
    obtain ⟨rfl, -⟩ := Prod.mk.inj (Option.some.inj (hreq.symm.trans hreq'))
    exact (heeds_iff hacts).mp (hinert later ran earlier htrace)
  · intro hheeds later ran earlier htrace
    obtain ⟨req, c, hreq, hacts⟩ := hasked ran (by simp [htrace])
    exact (heeds_iff hacts).mpr (hheeds later ran earlier htrace req c hreq)

/-- A request to start a workflow makes its namespace, which is then disabled. -/
def disabledEarly : List (Action Env Request) :=
  [.start (.startWorkflow ⟨"job", "queue", "type", none, "ns", "", none⟩)] ++
    runs 0 3 (.quiet 0 1) ++
  [.start (.disableNamespace "ns")] ++ runs 1 3 (.quiet 1 2)

theorem inert_iff_heeded_disabledEarly :
    Inert (.empty 0) (fireAll (service .sample) (.init (.empty 0) []) disabledEarly).trace := by
  have h : Steps (service .sample) (.init (.empty 0) [])
      (fireAll (service .sample) (.init (.empty 0) []) disabledEarly) :=
    AllEnabled.steps (by decide +kernel)
  have hidle : ∀ ran ∈ (fireAll (service .sample) (.init (.empty 0) []) disabledEarly).trace,
      isPoll ran.query = false ∧ ran.query.newRun ran.env = none := by
    decide +kernel
  refine (inert_iff_heeded .sample (.empty 0) h).mpr fun later ran earlier htrace req c hreq ns => ?_
  obtain ⟨hpoll, hnew⟩ := hidle ran (by rw [htrace]; simp)
  intro hnext
  unfold startsNext at hnext
  split at hnext
  next hq => rw [hq] at hnew; cases hnew
  next hq => rw [hq] at hpoll; cases hpoll
  next hq => rw [hq] at hnew; cases hnew
  next => cases hnext

/-- Another request arrives, and creates its run in the disabled namespace. -/
def created : ServerState :=
  fireAll (service .sample) (.init (.empty 0) []) (disabledEarly ++
    [.start (.startWorkflow ⟨"late", "queue", "type", none, "ns", "", none⟩)] ++
      runs 2 3 (.quiet 2 1))

/-- The statements before the last. -/
def before : List Ran := created.trace.drop 1

theorem created_length : 0 < created.trace.length := by decide +kernel

/-- The last statement. -/
def creation : Ran := created.trace.get ⟨0, created_length⟩

theorem created_trace : created.trace = [] ++ creation :: before := by
  unfold creation before
  rw [List.nil_append, List.get_eq_getElem, List.getElem_cons_drop, List.drop_zero]

/-- A run is created in a disabled namespace. -/
theorem disabled_namespace_runs : ¬ AlwaysInert (service .sample) := by
  intro hinert
  have h : Steps (service .sample) (.init (.empty 0) []) created :=
    AllEnabled.steps (by decide +kernel)
  have hdisabled : ((store.replay (.empty 0) before).db.namespaces.get? "ns").map
      NamespaceRow.enabled = some false := by
    decide +kernel
  have hnone : ((store.replay (.empty 0) before).run 1) = none := by decide +kernel
  have hnew : ((store.exec creation.env creation.query (store.replay (.empty 0) before)).2.run 1).map
      RunRow.ns = some "ns" := by
    decide +kernel
  obtain ⟨row, hrow, hoff⟩ := Option.map_eq_some_iff.mp hdisabled
  obtain ⟨r, hr, hns⟩ := Option.map_eq_some_iff.mp hnew
  exact hinert _ created h [] creation before created_trace "ns" ⟨row, hrow, hoff⟩
    ⟨1, r, hr, hns, .inl hnone⟩

end Disabled

end Kagzi
