import Kagzi.Server.Footprint
import Kagzi.Store.RunChange

/-!
# Every run has its payload

A run and its payload are inserted together, and a payload goes with its run.  But
`delete` first deletes the payload and then the run, by two statements that commit
on their own.  Between them, and for good when the second is refused because the run
has steps, there is a run without a payload (`payload_is_lost`).

Where no payload of a run is deleted by the first statement, every run has exactly
one payload throughout, and a deletion that fails has changed nothing
(`payloads_kept_if_spared`).
-/

namespace Kagzi

open Atomic Relational

namespace Payload

/-- The server, for all requests. -/
abbrev service (cfg : Config) : Service Stmt Stmt.Result World Env Request Status Response :=
  server cfg fun _ => True

/-! ## What is claimed -/

/-- Each run has exactly one payload. -/
def EachHasOne (w : World) : Prop :=
  ∀ r ∈ w.db.runs.rows, ∃! p, p ∈ w.db.payloads.rows ∧ p.runId = r.runId

/-- Each payload is one of a run. -/
def Referring (w : World) : Prop :=
  ∀ p ∈ w.db.payloads.rows, ∃ r ∈ w.db.runs.rows, r.runId = p.runId

/-- The row of a run or its payload is not as before. -/
def Changes (_ : Ran) (before after : World) : Prop :=
  ∃ runId, after.run runId ≠ before.run runId ∨
    after.db.payload runId ≠ before.db.payload runId

/-- Each run has exactly one payload in every state, and a deletion that ends with an
error has changed nothing. -/
def PayloadsKept (S : Service Stmt Stmt.Result World Env Request Status Response) : Prop :=
  ∀ (w : World) (p : ServerState), EachHasOne w → Referring w → Steps S (.init w []) p →
    EachHasOne p.store ∧
      ∀ (i : Nat) (req : ScheduleRequest) (x : Status),
        p.calls[i]? = some (.deleteWorkflowSchedule req, .fail x) →
          ¬ Did store w i Changes p.trace

/-- The first statement of a deletion fails, or there is no such run any more. -/
def Spared : Condition Stmt Stmt.Result World Env := fun _ e q m =>
  match q with
  | .deletePayload runId => e.fault = true ∨ m.store.run runId = none
  | _ => True

instance (i : Nat) (e : Env) (q : Stmt) (m : Now) : Decidable (Spared i e q m) := by
  apply Stmt.casesOn (motive := fun q => Decidable (Spared i e q m)) q
  case deletePayload =>
    intro runId
    exact inferInstanceAs (Decidable (e.fault = true ∨ m.store.run runId = none))
  all_goals
    intros
    exact inferInstanceAs (Decidable True)

/-! ## Runs with payloads -/

/-- There is a payload exactly for each run. -/
def Paired (db : Db) : Prop := ∀ runId, (db.run runId).isSome = (db.payload runId).isSome

theorem paired_iff {w : World} : Paired w.db ↔ EachHasOne w ∧ Referring w := by
  constructor
  · intro h
    constructor
    · intro r hr
      have hrun : w.db.run r.runId = some r := Db.run_of_mem hr
      obtain ⟨p, hp⟩ := Option.isSome_iff_exists.mp ((h r.runId).symm.trans (by rw [hrun]; rfl))
      obtain ⟨hmem, hid⟩ := Table.get?_eq_some_iff.mp hp
      refine ⟨p, ⟨hmem, hid⟩, fun p' hp' => ?_⟩
      exact Table.eq_of_clash _ hp'.1 hmem (hp'.2.trans hid.symm)
    · intro p hp
      have hget : w.db.payload p.runId = some p := Table.get?_of_mem hp
      obtain ⟨r, hr⟩ := Option.isSome_iff_exists.mp ((h p.runId).trans (by rw [hget]; rfl))
      exact ⟨r, Db.mem_of_run hr, Db.runId_of_run hr⟩
  · rintro ⟨hone, href⟩ runId
    cases hr : w.db.run runId with
    | some r =>
        obtain ⟨p, ⟨hmem, hid⟩, -⟩ := hone r (Db.mem_of_run hr)
        have hget : w.db.payload p.runId = some p := Table.get?_of_mem hmem
        rw [hid, Db.runId_of_run hr] at hget
        rw [hget]
        rfl
    | none =>
        cases hp : w.db.payload runId with
        | none => rfl
        | some p =>
            obtain ⟨r, hmem, hid⟩ := href p (Table.mem_of_get? hp)
            have hrun := Db.run_of_mem hmem
            rw [hid, Db.runId_of_payload hp, hr] at hrun
            cases hrun

section Statements
variable {e : Env} {q : Stmt} {db : Db}

/-- A run is inserted together with its payload. -/
theorem paired_insertRun (h : Paired db) (row : RunRow) (input : Bytes) :
    Paired (db.insertRun row (some input)).2 := by
  unfold Db.insertRun
  split
  next => exact h
  next => contradiction
  next runs bytes hruns heq =>
    split
    next => exact h
    next payloads hpayloads =>
      intro runId
      have hrun : ({ db with runs := runs, payloads := payloads } : Db).run runId
          = if row.runId = runId then some row else db.run runId := Table.get?_insert? hruns runId
      have hpayload : ({ db with runs := runs, payloads := payloads } : Db).payload runId
          = if row.runId = runId then some ⟨row.runId, bytes, none⟩ else db.payload runId :=
        Table.get?_insert? hpayloads runId
      rw [hrun, hpayload]
      by_cases hid : row.runId = runId
      · rw [if_pos hid, if_pos hid]
        rfl
      · rw [if_neg hid, if_neg hid]
        exact h runId

theorem paired_createWorkflow (h : Paired db) (params : CreateWorkflow) :
    Paired (createWorkflow params e db).2 := by
  have hinsert := paired_insertRun h (RunRow.created params e.began) params.input
  unfold createWorkflow
  dsimp only
  split
  next => split <;> next hi => rwa [hi] at hinsert
  next => exact h

/-- A template has a payload, so its instances have. -/
theorem paired_createScheduleInstance (h : Paired db) (templateRunId : Uuid) (fireAt : Int) :
    Paired (createScheduleInstance templateRunId fireAt e db).2 := by
  unfold createScheduleInstance
  split
  next => exact h
  next t ht =>
    split
    next => exact h
    next =>
      have hsome : (db.payload templateRunId).isSome = true := by
        rw [← h templateRunId, ht]
        rfl
      obtain ⟨p, hp⟩ := Option.isSome_iff_exists.mp hsome
      rw [show db.payloads.get? templateRunId = some p from hp]
      exact paired_insertRun h _ p.input

/-- A payload goes with its run. -/
theorem paired_deleteRun (h : Paired db) (target : Uuid) : Paired (deleteRun target e db).2 := by
  unfold deleteRun
  split
  next => exact h
  next =>
    split
    next => exact h
    next runs hu =>
      intro runId
      have hrun : runs.get? runId = _ :=
        Table.get?_update? (f := RunRow.orphan) (fun _ => rfl) hu runId
      rw [Table.get?_delete] at hrun
      have hpayload := Table.get?_delete db.payloads (fun p => p.runId = target) runId
      show (runs.get? runId).isSome = ((db.payloads.delete _).get? runId).isSome
      rw [hrun, hpayload, Option.isSome_map]
      have hp := h runId
      cases hr : db.run runId with
      | none =>
          rw [hr] at hp
          have hnone : db.payload runId = none := by simpa using hp.symm
          rw [show db.runs.get? runId = none from hr, show db.payloads.get? runId = none from hnone]
          rfl
      | some r =>
          rw [hr] at hp
          obtain ⟨p, hsome⟩ := Option.isSome_iff_exists.mp hp.symm
          rw [show db.runs.get? runId = some r from hr,
            show db.payloads.get? runId = some p from hsome, Option.filter_some, Option.filter_some,
            Db.runId_of_run hr, Db.runId_of_payload hsome]
          by_cases hid : runId = target <;> simp [hid]

/-- Other statements neither insert nor delete. -/
theorem paired_exec (h : Paired db) (hnew : q.newRun e = none) (hdel : q.deletes = none) :
    Paired (q.exec e db).2 := by
  intro runId
  have hr := q.exec_run e db runId
  have hp := q.exec_payload e db runId
  have hrun : ((q.exec e db).2.run runId).isSome = (db.run runId).isSome := by
    generalize (q.exec e db).2.run runId = new at hr ⊢
    generalize db.run runId = old at hr ⊢
    cases hr with
    | created => cases hnew
    | instantiated => cases hnew
    | deleted => cases hdel
    | _ => rfl
  have hpayload : ((q.exec e db).2.payload runId).isSome = (db.payload runId).isSome := by
    generalize (q.exec e db).2.payload runId = new at hp ⊢
    generalize db.payload runId = old at hp ⊢
    cases hp with
    | deleted hq =>
        rw [hdel] at hq
        cases hq
    | created => cases hnew
    | instantiated => cases hnew
    | _ => rfl
  rw [hrun, hpayload, h runId]

/-- The first statement of a deletion that is spared changes nothing. -/
theorem exec_deletePayload {i : Nat} {m : Now} {target : Uuid} (h : Paired m.store.db)
    (hq : Spared i e (.deletePayload target) m) (runId : Uuid) :
    ((Stmt.deletePayload target).exec e m.store.db).2.run runId = m.store.db.run runId ∧
      ((Stmt.deletePayload target).exec e m.store.db).2.payload runId
        = m.store.db.payload runId := by
  rcases hq with hfault | hnone
  · rw [Stmt.exec_of_fault hfault rfl]
    exact ⟨rfl, rfl⟩
  · rcases Stmt.exec_cases e (.deletePayload target) m.store.db with hx | hx
    · rw [hx]
      exact ⟨rfl, rfl⟩
    · rw [hx]
      refine ⟨rfl, ?_⟩
      have hp := h target
      rw [show m.store.db.run target = none from hnone] at hp
      have hnone' : m.store.db.payload target = none := by simpa using hp.symm
      show (m.store.db.payloads.delete _).get? runId = m.store.db.payloads.get? runId
      rw [Table.get?_delete]
      cases hr : m.store.db.payloads.get? runId with
      | none => rfl
      | some p =>
          have hid : p.runId ≠ target := by
            intro heq
            have hkey : p.runId = runId := Table.key_of_get? hr
            rw [← heq, hkey] at hnone'
            exact absurd (hr.symm.trans hnone') (by simp)
          simp [Option.filter_some, hid]

/-- A statement that deletes no payload of a run keeps runs and payloads together. -/
theorem exec_paired {i : Nat} {m : Now} (h : Paired m.store.db) (hq : Spared i e q m) :
    Paired (q.exec e m.store.db).2 := by
  rcases q.exec_cases e m.store.db with hx | hx
  · rw [hx]
    exact h
  · cases q with
    | createWorkflow params => exact hx ▸ paired_createWorkflow h params
    | createScheduleInstance template fireAt =>
        exact hx ▸ paired_createScheduleInstance h template fireAt
    | deleteRun target => exact hx ▸ paired_deleteRun (e := e) h target
    | deletePayload target =>
        intro runId
        obtain ⟨hrun, hpayload⟩ := exec_deletePayload h hq runId
        rw [hrun, hpayload]
        exact h runId
    | _ => exact paired_exec h rfl rfl

end Statements

/-! ## A deletion that fails -/

abbrev engine : Engine Stmt Stmt.Result World Env := store.restrict Spared

/-- Every statement is allowed. -/
abbrev free : Condition Stmt Stmt.Result World Env := fun _ _ _ _ => True

/-- Runs and payloads are together, and the past is known. -/
def Known (w : World) (m : Now) : Prop := Paired m.store.db ∧ Replayed store w m

/-- The caller has changed nothing. -/
def Unchanged (w : World) (i : Nat) (m : Now) : Prop :=
  Known w m ∧ ¬ Did store w i Changes m.trace

section Judgements
variable {cfg : Config} {w : World} {i : Nat}

theorem known_kept (w : World) : Invariant engine (Known w) := fun i e q m h ha =>
  ⟨exec_paired h.1 ha.2, replayed_invariant store engine rfl w i e q m h.2 ha⟩

theorem unchanged_stable (w : World) (i : Nat) : Stable engine free i (Unchanged w i) :=
  (known_kept w).restrict.stable.and stable_not_did

/-- A statement of the caller that changes neither a run nor a payload. -/
theorem unchanged_after {e : Env} {q : Stmt} {m : Now} (hm : Unchanged w i m)
    (ha : engine.admits i e q m)
    (hq : ∀ runId, (q.exec e m.store.db).2.run runId = m.store.db.run runId ∧
      (q.exec e m.store.db).2.payload runId = m.store.db.payload runId) :
    Unchanged w i (m.after engine i e q) := by
  refine ⟨known_kept w i e q m hm.1 ha, hm.1.2.not_did hm.2 ?_⟩
  rintro - ⟨runId, h | h⟩
  · exact h (hq runId).1
  · exact h (hq runId).2

theorem sat_spares {ε α : Type} {p : Prog Stmt Stmt.Result ε α}
    (h : p.Uses fun q => q.sparesRuns = true) :
    Sat engine free i (Unchanged w i) p (fun _ => Unchanged w i) fun _ => Unchanged w i := by
  refine Sat.of_uses h (unchanged_stable w i) fun e q m hq hm ha =>
    ⟨trivial, unchanged_after hm ha fun runId => ?_⟩
  rcases q.exec_cases e m.store.db with hx | hx
  · rw [hx]
    exact ⟨rfl, rfl⟩
  · have hsame := q.sql_sparesRuns hq e m.store.db
    rw [hx]
    exact ⟨Db.run_congr hsame.runs runId, Db.payload_congr hsame.payloads⟩

/-- The deletion has changed nothing when its first statement has run, nor when the
second has failed. -/
theorem sat_delete (runId : Uuid) :
    Sat engine free i (Unchanged w i) (WorkflowRepository.delete runId) (fun _ _ => True)
      fun _ => Unchanged w i := by
  have hfirst : Sat engine free i (Unchanged w i) (sql (.deletePayload runId))
      (fun _ => Unchanged w i) fun _ => Unchanged w i := by
    have huses : (sql (.deletePayload runId)).Uses fun q => q = .deletePayload runId := uses_sql rfl
    refine Sat.of_uses huses (unchanged_stable w i) ?_
    rintro e q m rfl hm ha
    exact ⟨trivial, unchanged_after hm ha (exec_deletePayload hm.1.1 ha.2)⟩
  refine Sat.bind hfirst fun _ e m hm ha => ⟨trivial, ?_⟩
  cases hres : (engine.exec e (.deleteRun runId) m.store).1 with
  | ok _ => exact ⟨fun _ => True, stable_true, trivial, fun _ _ => trivial⟩
  | error x =>
      refine ⟨Unchanged w i, unchanged_stable w i, unchanged_after hm ha fun other => ?_, ?_⟩
      · rw [deleteRun_error hres]
        exact ⟨rfl, rfl⟩
      · exact fun _ h => h

theorem sat_deleteWorkflowSchedule (req : ScheduleRequest) :
    Sat engine free i (Unchanged w i) (ScheduleService.deleteWorkflowSchedule cfg req)
      (fun _ _ => True) fun _ => Unchanged w i := by
  refine sat_uuid_bind (fun runId _ => ?_) fun _ _ h => h
  refine sat_requireNonEmpty_bind ?_ fun _ _ h => h
  have hfind : (ScheduleService.find runId req.ns req.scheduleId).Uses
      fun q => q.sparesRuns = true := by
    refine Prog.Uses.bind (uses_stmt ?_) fun _ => uses_orFail _ _
    rfl
  refine Sat.bind (sat_spares hfind) fun _ => ?_
  exact Sat.bind ((sat_delete runId).mapError fun _ _ h => h) fun _ _ _ => trivial

end Judgements

/-! ## The result -/

theorem serves (cfg : Config) (w : World) :
    Serves ((service cfg).restrict Spared) free (Known w) (fun _ _ _ _ => True)
      (fun i req _ m => ∀ r, req = .deleteWorkflowSchedule r → ¬ Did store w i Changes m.trace) := by
  intro i req _
  refine ⟨Unchanged w i, unchanged_stable w i, fun m hm hnone => ⟨hm, ?_⟩, ?_⟩
  · rintro ⟨later, ran, earlier, htrace, hcaller, -⟩
    exact hnone ran (by simp [htrace]) hcaller
  · by_cases h : ∃ r, req = .deleteWorkflowSchedule r
    · obtain ⟨r, rfl⟩ := h
      exact (sat_deleteWorkflowSchedule r).mono (fun _ h => h) (fun _ _ h => h)
        fun _ _ hm _ _ => hm.2
    · exact (Sat.of_invariant (fun _ _ _ => trivial) (known_kept w).restrict).mono
        (fun _ h => h.1) (fun _ _ _ => trivial) fun _ _ _ r heq => absurd ⟨r, heq⟩ h

/-- Every run has its payload in the runs in which no payload of a run is deleted
before the run. -/
theorem payloads_kept_if_spared (cfg : Config) : PayloadsKept ((service cfg).restrict Spared) := by
  intro w p hone href h
  have hinv : Invariant (engine.restrict free) (Known w) := (known_kept w).restrict
  have hstart : Known w ⟨w, []⟩ := ⟨paired_iff.mpr ⟨hone, href⟩, rfl⟩
  obtain ⟨-, hsound⟩ := h.sound (serves cfg w) hinv hstart (sound_nil w)
  have hknown : Known w p.toMoment := h.invariant (known_kept w) hstart
  exact ⟨(paired_iff.mp hknown.1).1, fun i req x hget => hsound.error hget req rfl⟩

/-- A run is created, and its deletion as if it were a schedule fails at the first statement. -/
def refused : ServerState :=
  fireAll ((service .sample).restrict Spared) (.init (.empty 0) [])
    ([.start (.startWorkflow ⟨"job", "queue", "type", some [7], "ns", "", none⟩)] ++
      runs 0 6 (.quiet 0 1) ++
    [.start (.deleteWorkflowSchedule ⟨"ns", "1"⟩)] ++ runs 1 1 (.quiet 1 2) ++
      runs 1 1 { Env.quiet 2 3 with fault := true })

theorem payloads_kept_refused : (refused.failed 1).isSome = true ∧
    (refused.store.run 1).isSome = true ∧ EachHasOne refused.store ∧
      ¬ Did store (.empty 0) 1 Changes refused.trace := by
  have h : Steps ((service .sample).restrict Spared) (.init (.empty 0) []) refused :=
    AllEnabled.steps (by decide +kernel)
  have hempty : EachHasOne (.empty 0) := fun r hr => by cases hr
  obtain ⟨hone, hkept⟩ := payloads_kept_if_spared .sample (.empty 0) refused hempty
    (fun p hp => by cases hp) h
  have hrequest : (refused.failed 1).map Prod.fst = some (.deleteWorkflowSchedule ⟨"ns", "1"⟩) := by
    decide +kernel
  obtain ⟨⟨req, x⟩, hfailed, rfl⟩ := Option.map_eq_some_iff.mp hrequest
  exact ⟨by rw [hfailed]; rfl, by decide +kernel, hone,
    hkept 1 _ x (Pool.calls_of_failed hfailed)⟩

/-! ## A payload that is lost -/

/-- A run is taken by a worker, which leaves a step in its history, and is then
deleted as if it were a schedule. -/
def deleteTaken : List (Action Env Request) :=
  [.start (.startWorkflow ⟨"job", "queue", "type", some [7], "ns", "", none⟩)] ++
    runs 0 6 (.quiet 0 1) ++
  [.start (.register ⟨"ns", "queue", ["type"], "", 0, ""⟩)] ++ runs 1 1 (.quiet 0 2) ++
  [.start (.pollTask ⟨"queue", "2", "ns", ["type"]⟩ 0)] ++ runs 2 7 (.quiet 1 3) ++
  [.start (.deleteWorkflowSchedule ⟨"ns", "1"⟩)] ++ runs 3 3 (.quiet 2 4)

/-- The state after it. -/
def deleted : ServerState := fireAll (service .sample) (.init (.empty 0) []) deleteTaken

/-- The steps of the run refuse its deletion, and the payload is gone. -/
theorem payload_is_lost : ¬ PayloadsKept (service .sample) := by
  intro hkept
  have h : Steps (service .sample) (.init (.empty 0) []) deleted :=
    AllEnabled.steps (by decide +kernel)
  have hempty : EachHasOne (.empty 0) := fun r hr => by cases hr
  obtain ⟨hone, -⟩ := hkept (.empty 0) deleted hempty (fun p hp => by cases hp) h
  have hrun : 1 ∈ deleted.store.db.runs.rows.map RunRow.runId := by decide +kernel
  obtain ⟨r, hr, -⟩ := List.mem_map.mp hrun
  obtain ⟨p, ⟨hp, -⟩, -⟩ := hone r hr
  have hnone : deleted.store.db.payloads.rows = [] := by decide +kernel
  rw [hnone] at hp
  cases hp

end Payload

end Kagzi
