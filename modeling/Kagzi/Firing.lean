import Kagzi.Lease
import Kagzi.Server.Instances

/-!
# Exactly one instance for each slot

`create_schedule_instance` leaves it to the unique index over `schedule_id` and
`available_at` to keep two ticks from creating two instances for one slot, and a
conflict on the index is taken to mean that the instance exists.  But
`available_at` is also where a claim, a heartbeat, a sleep and a retry of the
instance write their deadlines.  An instance that a worker claims between two
ticks gives its slot free, and the second tick creates another one
(`not_exactly_once`).

What moves an instance out of its slot is a claim, and after it heartbeats, sleeps
and retries, or a termination.  The same statements move a run of the template into
a slot that is not its own, and so does a trigger.  In a run in which none of them
has done so whenever an instance is to be created, every slot gets at most one
instance, and a conflict is never reported for a slot without one
(`exactly_once_while_unmoved`).
-/

namespace Kagzi

open Atomic

namespace Firing

/-- The request deletes no schedule. -/
def keepsTemplates : Request → Bool
  | .deleteWorkflowSchedule _ => false
  | _ => true

/-- The server, for all requests but the deletion of a schedule. -/
abbrev service (cfg : Config) : Service Stmt Stmt.Result World Env Request Status Response :=
  server cfg fun req => keepsTemplates req = true

/-- At most one instance was created for the slot, and the answer that one
exists was given only when there was one. -/
structure OncePerSlot (templateRunId : Uuid) (fireAt : Int) (trace : List Ran) : Prop where
  at_most_once : (created templateRunId fireAt trace).length ≤ 1
  none_sound : ∀ later ran earlier, trace = later ++ ran :: earlier →
    creation ran = some (templateRunId, fireAt, none) → Fired templateRunId fireAt earlier

/-- Firing is exactly once for every template and every slot, in every run from an
empty database. -/
def ExactlyOnce (S : Service Stmt Stmt.Result World Env Request Status Response) : Prop :=
  ∀ (start : Int) (p : ServerState), Steps S (.init (.empty start) []) p →
    ∀ templateRunId fireAt, OncePerSlot templateRunId fireAt p.trace

/-- The run waits as it was inserted.  No poll has claimed it, so no heartbeat, sleep
or retry has set its time either, and it is not over. -/
def Unmoved (r : RunRow) : Prop := r.status = .pending ∧ r.startedAt = none

instance : DecidablePred Unmoved := fun _ => inferInstanceAs (Decidable (_ ∧ _))

/-- The statement inserts the run for the template, as a trigger does. -/
def triggers (templateRunId runId : Uuid) : Stmt → Bool
  | .createWorkflow params => params.runId = runId && params.scheduleId = some templateRunId
  | _ => false

/-- A trigger has inserted the run for the template.  Its time is that of the trigger. -/
def Triggered (templateRunId runId : Uuid) (trace : List Ran) : Prop :=
  (trace.any fun ran => triggers templateRunId runId ran.query) = true

instance (templateRunId runId : Uuid) (trace : List Ran) :
    Decidable (Triggered templateRunId runId trace) :=
  inferInstanceAs (Decidable (_ = true))

/-- Nothing has moved an instance of the slot out of it.  When the slot has none, nothing
has moved another run of the template into it. -/
structure Settled (templateRunId : Uuid) (fireAt : Int) (m : Now) : Prop where
  stays : ∀ runId ∈ created templateRunId fireAt m.trace, ∃ r, m.store.run runId = some r ∧ Unmoved r
  vacant : created templateRunId fireAt m.trace = [] → ∀ r ∈ m.store.db.runs.rows,
    r.scheduleId = some templateRunId → r.availableAt = some fireAt →
      Unmoved r ∧ ¬ Triggered templateRunId r.runId m.trace

/-- Every slot that an instance is to be created for is settled. -/
def Undisturbed : Condition Stmt Stmt.Result World Env := fun _ _ q m =>
  match q with
  | .createScheduleInstance templateRunId fireAt => Settled templateRunId fireAt m
  | _ => True

/-- What the handlers see to: instances are created for templates that exist, and
nothing is deleted. -/
def Guarded : Condition Stmt Stmt.Result World Env := fun _ _ q m =>
  q.deletes = none ∧
    match q with
    | .createScheduleInstance templateRunId _ => m.store.HasTemplate templateRunId
    | _ => True

abbrev engine (settings : WorkerSettings) : Engine Stmt Stmt.Result World Env :=
  (store.restrict Undisturbed).restrict (Lease.Guarded settings)

/-! ## One statement -/

section Extension
variable {templateRunId : Uuid} {fireAt : Int} {trace : List Ran} {ran : Ran}

theorem oncePerSlot_nil : OncePerSlot templateRunId fireAt [] where
  at_most_once := Nat.zero_le 1
  none_sound := by
    intro later ran earlier h
    cases later <;> cases h

/-- A statement that is no new answer for the slot. -/
theorem OncePerSlot.cons (h : OncePerSlot templateRunId fireAt trace)
    (hsome : ∀ runId, creation ran = some (templateRunId, fireAt, some runId) →
      ¬ Fired templateRunId fireAt trace)
    (hnone : creation ran = some (templateRunId, fireAt, none) → Fired templateRunId fireAt trace) :
    OncePerSlot templateRunId fireAt (ran :: trace) where
  at_most_once := by
    unfold created
    cases hi : instanceFor templateRunId fireAt ran with
    | none =>
        rw [List.filterMap_cons_none hi]
        exact h.at_most_once
    | some runId =>
        have hfree := hsome runId (instanceFor_eq_some.mp hi)
        have hnil : created templateRunId fireAt trace = [] :=
          List.eq_nil_iff_forall_not_mem.mpr fun id hid => hfree ⟨id, hid⟩
        rw [List.filterMap_cons_some hi]
        change (created templateRunId fireAt trace).length + 1 ≤ 1
        rw [hnil]
        rfl
  none_sound := by
    intro later ran' earlier htrace hcreation
    cases later with
    | nil =>
        obtain ⟨rfl, rfl⟩ := List.cons.inj htrace
        exact hnone hcreation
    | cons x later =>
        exact h.none_sound later ran' earlier (List.cons.inj htrace).2 hcreation

end Extension

/-! ## Runs that have not been moved -/

section Rows
variable {settings : WorkerSettings} {templateRunId : Uuid} {fireAt : Int} {i : Nat} {e : Env}
    {q : Stmt} {m : Now}

/-- A run that is running has been started. -/
def Started (m : Now) : Prop :=
  ∀ runId r, m.store.run runId = some r → r.status = .running → r.startedAt ≠ none

/-- A run that no statement has moved was not moved before, and is where it was. -/
theorem unmoved_before (hq : Lease.Guarded settings i e q m) (hdeletes : q.deletes = none)
    (hstarted : Started m) {runId : Uuid} {r r' : RunRow} (hr : m.store.run runId = some r)
    (hr' : (store.exec e q m.store).2.run runId = some r') (h : Unmoved r') :
    Unmoved r ∧ r'.scheduleId = r.scheduleId ∧ r'.availableAt = r.availableAt := by
  have hc := q.exec_run e m.store.db runId
  rw [store_exec_run] at hr'
  rw [hr', show m.store.db.run runId = some r from hr] at hc
  obtain ⟨hs, hnew⟩ := h
  cases hc with
  | same => exact ⟨⟨hs, hnew⟩, rfl, rfl⟩
  | extended _ hrunning => rw [show r.status = .pending from hs] at hrunning; cases hrunning
  | retried hrunning => exact absurd hnew (hstarted runId r hr hrunning)
  | nextFired =>
      have htemplate := hq r (Db.runId_of_run hr ▸ hr)
      rw [show r.status = .pending from hs] at htemplate
      cases htemplate
  | @overwritten workflow =>
      have htemplate : workflow.status.isScheduleTemplate = true := hq
      rw [show workflow.status = .pending from hs] at htemplate
      cases htemplate
  | orphaned => cases hdeletes
  | _ => cases hs

theorem started_invariant : Invariant (engine settings) Started := by
  rintro i e q m h ⟨-, hq⟩ runId r' hr' hs
  have hc := q.exec_run e m.store.db runId
  change (store.exec e q m.store).2.run runId = some r' at hr'
  rw [store_exec_run] at hr'
  rw [hr'] at hc
  cases hold : m.store.db.run runId with
  | none =>
      rw [hold] at hc
      cases hc <;> cases hs
  | some r =>
      rw [hold] at hc
      cases hc with
      | same => exact h runId _ hold hs
      | claimed => simp [RunRow.claim]
      | extended _ hrunning => exact h runId r hold hrunning
      | nextFired => exact h runId r hold hs
      | overwritten => exact absurd hs (Lease.template_not_running hq)
      | orphaned => exact h runId r hold hs
      | _ => cases hs

/-- Without a deletion a run stays. -/
theorem run_kept (hdeletes : q.deletes = none) {runId : Uuid} {r : RunRow}
    (hr : m.store.run runId = some r) : ∃ r', (store.exec e q m.store).2.run runId = some r' := by
  have hc := q.exec_run e m.store.db runId
  rw [show m.store.db.run runId = some r from hr] at hc
  rw [store_exec_run]
  generalize (q.exec e m.store.db).2.run runId = new at hc ⊢
  cases hc with
  | deleted => cases hdeletes
  | _ => exact ⟨_, rfl⟩

/-- A row that is new and stands at the slot is an instance for it, or a trigger has
inserted it. -/
theorem created_or_triggered (hq : Guarded i e q m) {runId : Uuid} {r' : RunRow}
    (hnone : m.store.run runId = none) (hr' : (store.exec e q m.store).2.run runId = some r')
    (hschedule : r'.scheduleId = some templateRunId) (hslot : r'.availableAt = some fireAt) :
    runId ∈ created templateRunId fireAt (m.after store i e q).trace ∨
      Triggered templateRunId runId (m.after store i e q).trace := by
  have hc := q.exec_run e m.store.db runId
  have hid : r'.runId = runId := Db.runId_of_run hr'
  have hchanged : (store.exec e q m.store).2.db ≠ m.store.db := by
    intro hsame
    rw [show (store.exec e q m.store).2.run runId = (store.exec e q m.store).2.db.run runId from rfl,
      hsame] at hr'
    exact absurd (hr'.symm.trans hnone) (by simp)
  rw [store_exec_run] at hr'
  rw [hr', show m.store.db.run runId = none from hnone] at hc
  rw [Moment.after_trace]
  cases hc with
  | @created params =>
      right
      have hrun : params.runId = runId := hid
      have hparams : params.scheduleId = some templateRunId := hschedule
      simp [Triggered, triggers, hrun, hparams]
  | @instantiated t slot =>
      left
      obtain rfl : t.runId = templateRunId := Option.some.inj hschedule
      obtain rfl : slot = fireAt := Option.some.inj hslot
      obtain rfl : e.fresh = runId := hid
      obtain ⟨⟨template, htemplate⟩, hpayload⟩ := hq.2
      rcases createScheduleInstance_cases slot e htemplate hpayload with hsame | hok
      · exact absurd hsame hchanged
      · rw [store_exec_fst]
        refine List.mem_filterMap.mpr ⟨_, List.mem_cons_self .., instanceFor_eq_some.mpr ?_⟩
        rw [hok]
        rfl

/-- Of the runs that nothing has moved, those at the slot are its instances and those that
were triggered, and its instances are at it. -/
structure Tracked (templateRunId : Uuid) (fireAt : Int) (m : Now) : Prop where
  known : ∀ runId r, m.store.run runId = some r → Unmoved r → r.scheduleId = some templateRunId →
    r.availableAt = some fireAt →
      runId ∈ created templateRunId fireAt m.trace ∨ Triggered templateRunId runId m.trace
  placed : ∀ runId ∈ created templateRunId fireAt m.trace, ∃ r, m.store.run runId = some r ∧
    (Unmoved r → r.scheduleId = some templateRunId ∧ r.availableAt = some fireAt)

/-- The instances of a slot are those of before, and the one that the statement created. -/
theorem created_cons {ran : Ran} {trace : List Ran} {runId : Uuid}
    (h : runId ∈ created templateRunId fireAt (ran :: trace)) :
    creation ran = some (templateRunId, fireAt, some runId) ∨
      runId ∈ created templateRunId fireAt trace := by
  obtain ⟨ran', hran, hi⟩ := List.mem_filterMap.mp h
  rcases List.mem_cons.mp hran with rfl | hran
  · exact .inl (instanceFor_eq_some.mp hi)
  · exact .inr (List.mem_filterMap.mpr ⟨ran', hran, hi⟩)

theorem mem_created_cons (ran : Ran) {trace : List Ran} {runId : Uuid}
    (h : runId ∈ created templateRunId fireAt trace) :
    runId ∈ created templateRunId fireAt (ran :: trace) := by
  obtain ⟨ran', hran, hi⟩ := List.mem_filterMap.mp h
  exact List.mem_filterMap.mpr ⟨ran', List.mem_cons_of_mem _ hran, hi⟩

theorem tracked_invariant (templateRunId : Uuid) (fireAt : Int) :
    Invariant ((engine settings).restrict Guarded)
      fun m => Started m ∧ Tracked templateRunId fireAt m := by
  rintro i e q m ⟨hstarted, h⟩ ⟨ha, hguarded⟩
  refine ⟨started_invariant i e q m hstarted ha, ⟨fun runId r' hr' hunmoved hschedule hslot => ?_,
    fun runId hmem => ?_⟩⟩
  · cases hr : m.store.run runId with
    | none => exact created_or_triggered hguarded hr hr' hschedule hslot
    | some r =>
        obtain ⟨hbefore, hsched, hav⟩ := unmoved_before ha.2 hguarded.1 hstarted hr hr' hunmoved
        rcases h.known runId r hr hbefore (hsched ▸ hschedule) (hav ▸ hslot) with hmem | htriggered
        · exact .inl (mem_created_cons _ hmem)
        · exact .inr (by
            rw [Triggered, Moment.after_trace, List.any_cons]
            exact Bool.or_eq_true_iff.mpr (.inr htriggered))
  · rcases created_cons hmem with hcreation | hold
    · obtain rfl := creation_inv hcreation
      have hok : (store.exec e (.createScheduleInstance templateRunId fireAt) m.store).1
          = .ok (some runId) := answer_of_creation hcreation
      obtain ⟨t, ht, hrow⟩ := instance_of_createScheduleInstance hok
      exact ⟨_, hrow, fun _ => ⟨congrArg some (Db.runId_of_run ht), rfl⟩⟩
    · obtain ⟨r, hr, hplace⟩ := h.placed runId hold
      obtain ⟨r', hr'⟩ := run_kept (e := e) hguarded.1 hr
      refine ⟨r', hr', fun hunmoved => ?_⟩
      obtain ⟨hbefore, hsched, hav⟩ := unmoved_before ha.2 hguarded.1 hstarted hr hr' hunmoved
      rw [hsched, hav]
      exact hplace hbefore

end Rows

/-- Where the slot is settled and the template exists, no statement breaks the rule. -/
theorem oncePerSlot_invariant (settings : WorkerSettings) (templateRunId : Uuid) (fireAt : Int) :
    Invariant ((engine settings).restrict Guarded) fun m =>
      (Started m ∧ Tracked templateRunId fireAt m) ∧ OncePerSlot templateRunId fireAt m.trace := by
  rintro i e q m ⟨htracked, h⟩ ha
  refine ⟨tracked_invariant templateRunId fireAt i e q m htracked ha, ?_⟩
  obtain ⟨⟨⟨-, hsettled⟩, -⟩, -, hguarded⟩ := ha
  refine OncePerSlot.cons h (fun runId hsome => ?_) fun hnone => ?_
  · obtain rfl := creation_inv hsome
    rintro ⟨other, hother⟩
    have hok : (store.exec e (.createScheduleInstance templateRunId fireAt) m.store).1
        = .ok (some runId) := answer_of_creation hsome
    -- an earlier instance would still be in its slot
    obtain ⟨r, hr, hunmoved⟩ := hsettled.stays other hother
    obtain ⟨r', hr', hplace⟩ := htracked.2.placed other hother
    obtain rfl := Option.some.inj (hr.symm.trans hr')
    exact free_of_created hok r ⟨Db.mem_of_run hr, hplace hunmoved⟩
  · obtain rfl := creation_inv hnone
    have hok : (store.exec e (.createScheduleInstance templateRunId fireAt) m.store).1
        = .ok none := answer_of_creation hnone
    obtain ⟨r, hmem, hschedule, hslot⟩ := taken_of_none hguarded hok
    by_contra hunfired
    have hempty : created templateRunId fireAt m.trace = [] :=
      List.eq_nil_iff_forall_not_mem.mpr fun id hid => hunfired ⟨id, hid⟩
    obtain ⟨hunmoved, huntriggered⟩ := hsettled.vacant hempty r hmem hschedule hslot
    rcases htracked.2.known r.runId r (Db.run_of_mem hmem) hunmoved hschedule hslot with hfor | hby
    · exact hunfired ⟨_, hfor⟩
    · exact huntriggered hby

/-! ## Every handler is guarded -/

theorem hasTemplate_invariant (templateRunId : Uuid) :
    Invariant ((store.restrict Undisturbed).restrict Guarded)
      fun m => m.store.HasTemplate templateRunId :=
  fun _ e _ _ h ha => h.exec (by simp [ha.2.1]) e

theorem coordinatorRule (cfg : Config) (i : Nat) :
    CoordinatorRule cfg (store.restrict Undisturbed) Guarded i (fun _ => True)
      (fun _ t m => m.store.HasTemplate t.runId) (fun _ _ _ => True) (fun _ _ _ => True) where
  inv := fun _ _ _ _ _ _ => trivial
  snap_steady := fun _ t => steady_of_invariant (hasTemplate_invariant t.runId)
  made_steady := fun _ _ => steady_true
  done_inv := fun _ _ _ _ _ _ _ _ => trivial
  plain := by
    intro e q m hq _ _
    cases q <;> first | exact ⟨rfl, trivial⟩ | cases hq
  read := by
    intro e m now limit ts _ _ hres t ht
    obtain ⟨hrun, -, -, hpayload⟩ := mem_findDueSchedules hres ht
    exact World.HasTemplate.exec (q := .findDueSchedules now limit) nofun e ⟨⟨_, hrun⟩, hpayload⟩
  skip := fun _ _ _ _ _ _ _ _ _ => ⟨rfl, trivial⟩
  create := fun _ _ _ _ _ _ _ _ hsnap _ => ⟨rfl, hsnap⟩
  made := fun _ _ _ _ _ _ _ _ _ _ _ _ => trivial
  advance := fun _ _ _ _ _ _ _ _ _ _ _ => ⟨rfl, trivial⟩

/-- A request other than the coordinator creates no instance, and one that
deletes is not accepted. -/
theorem guarded_of_may {cfg : Config} {req : Request} (hacc : keepsTemplates req = true)
    (hco : ∀ ticks, req ≠ .coordinator ticks) {q : Stmt} (hq : req.may cfg q) (i : Nat) (e : Env)
    (m : Now) : Guarded i e q m := by
  cases q with
  | createScheduleInstance templateRunId fireAt =>
      obtain ⟨ticks, rfl⟩ := hq
      exact absurd rfl (hco ticks)
  | deletePayload runId =>
      obtain ⟨⟨r, rfl⟩, -⟩ := hq
      cases hacc
  | deleteRun runId =>
      obtain ⟨⟨r, rfl⟩, -⟩ := hq
      cases hacc
  | _ => exact ⟨rfl, trivial⟩

theorem serves (cfg : Config) :
    Serves ((service cfg).restrict Undisturbed) Guarded (fun _ => True) (Reported fun _ _ _ => True)
      (fun _ _ _ _ => True) :=
  serves_of_rule rfl (fun _ hacc hco _ hq i e m _ _ => guarded_of_may hacc hco hq i e m)
    (coordinatorRule cfg)

theorem serves_leases (cfg : Config) :
    Serves (service cfg) (Lease.Guarded cfg.worker) (fun _ => True) (Reported fun _ _ _ => True)
      (fun _ _ _ _ => True) :=
  serves_of_rule rfl (fun _ _ hco _ hq i e m _ _ => Lease.guarded_of_may hco hq i e m)
    (Lease.coordinatorRule cfg)

/-- Firing is exactly once in every run in which, whenever an instance is created for a
slot, nothing has moved the instances of the slot out of it, or another run of the
template into it. -/
theorem exactly_once_while_unmoved (cfg : Config) :
    ExactlyOnce ((service cfg).restrict Undisturbed) := by
  intro start p h templateRunId fireAt
  have hinv : ∀ {S : Engine Stmt Stmt.Result World Env}, Invariant S fun _ => True :=
    fun _ _ _ _ _ _ => trivial
  obtain ⟨hleases, -⟩ := h.sound (serves_leases cfg).restrict hinv trivial (sound_nil _)
  obtain ⟨hrun, -⟩ := hleases.sound (serves cfg).restrict hinv trivial (sound_nil _)
  have hstart : Started ⟨.empty start, []⟩ := fun _ _ hr => by cases hr
  have htracked : Tracked templateRunId fireAt ⟨.empty start, []⟩ :=
    ⟨fun _ _ hr => (by cases hr), fun _ hmem => by cases hmem⟩
  exact (hrun.invariant (oncePerSlot_invariant cfg.worker templateRunId fireAt)
    (And.intro (And.intro hstart htracked) oncePerSlot_nil)).2

section Decisions
variable {templateRunId : Uuid} {fireAt : Int} {m : Now}

theorem settled_iff : Settled templateRunId fireAt m ↔
    (∀ runId ∈ created templateRunId fireAt m.trace,
      (m.store.run runId).any (fun r => decide (Unmoved r)) = true) ∧
    (created templateRunId fireAt m.trace = [] → ∀ r ∈ m.store.db.runs.rows,
      r.scheduleId = some templateRunId → r.availableAt = some fireAt →
        Unmoved r ∧ ¬ Triggered templateRunId r.runId m.trace) := by
  constructor
  · intro h
    refine ⟨fun runId hmem => ?_, h.vacant⟩
    obtain ⟨r, hr, hunmoved⟩ := h.stays runId hmem
    rw [hr]
    exact decide_eq_true hunmoved
  · rintro ⟨hstays, hvacant⟩
    refine ⟨fun runId hmem => ?_, hvacant⟩
    have hany := hstays runId hmem
    cases hr : m.store.run runId with
    | none =>
        rw [hr] at hany
        cases hany
    | some r =>
        rw [hr] at hany
        exact ⟨r, rfl, of_decide_eq_true hany⟩

instance : Decidable (Settled templateRunId fireAt m) := decidable_of_iff _ settled_iff.symm

instance (i : Nat) (e : Env) (q : Stmt) (m : Now) : Decidable (Undisturbed i e q m) := by
  apply Stmt.casesOn (motive := fun q => Decidable (Undisturbed i e q m)) q
  case createScheduleInstance =>
    intro templateRunId fireAt
    exact inferInstanceAs (Decidable (Settled templateRunId fireAt m))
  all_goals
    intros
    exact inferInstanceAs (Decidable True)

end Decisions

/-- Two ticks read the template at one slot, and the first stops before it has moved the
template on. -/
def twoTicks : ServerState :=
  fireAll ((service .sample).restrict Undisturbed) (.init (.empty 0) []) <|
    createTenSeconds none ++
      [.start (.coordinator 1)] ++ runs 1 4 (.quiet 10 2) ++
      [.start (.coordinator 1)] ++ runs 2 5 (.quiet 11 5)

theorem oncePerSlot_twoTicks : created 1 (seconds 10) twoTicks.trace = [2] ∧
    OncePerSlot 1 (seconds 10) twoTicks.trace := by
  have hsteps : Steps ((service .sample).restrict Undisturbed) (.init (.empty 0) []) twoTicks :=
    AllEnabled.steps (by decide +kernel)
  exact ⟨by decide +kernel, exactly_once_while_unmoved .sample 0 _ hsteps 1 (seconds 10)⟩

/-! ## A slot that fires twice -/

/-- A tick creates an instance and stops, a worker claims it, and a second tick
reads the template before the first has moved it on. -/
def claimedBetweenTicks : List (Action Env Request) :=
  createTenSeconds none ++
    [.start (.coordinator 1)] ++ runs 1 4 (.quiet 10 2) ++
    [.start (.register ⟨"ns", "queue", ["type"], "host", 7, ""⟩)] ++ runs 2 1 (.quiet 10 3) ++
    [.start (.pollTask ⟨"queue", "3", "ns", ["type"]⟩ 0)] ++ runs 3 2 (.quiet 10 4) ++
    [.start (.coordinator 1)] ++ runs 4 4 (.quiet 11 5)

/-- The claim moves the first instance out of the slot, and the second tick
creates another. -/
theorem not_exactly_once : ¬ ExactlyOnce (service .sample) := by
  intro honce
  have hsteps : Steps (service .sample) (.init (.empty 0) [])
      (fireAll (service .sample) (.init (.empty 0) []) claimedBetweenTicks) :=
    AllEnabled.steps (by decide +kernel)
  have htwo : created 1 (seconds 10)
      (fireAll (service .sample) (.init (.empty 0) []) claimedBetweenTicks).trace = [5, 2] := by
    decide +kernel
  have hle := (honce 0 _ hsteps 1 (seconds 10)).at_most_once
  rw [htwo] at hle
  exact absurd hle (by decide)

end Firing

end Kagzi
