import Kagzi.Server.Footprint
import Kagzi.Server.CoordinatorRule
import Kagzi.Store.RunChange

/-!
# The life of a run

The status of a run moves along the edges of `Transition`, and a row with a
terminal status is final: nothing writes it again.  Every update of a run is
guarded by the status it starts from, with one exception.  The coordinator moves
the next fire time of a template by the id alone.  That is safe because the
template was `SCHEDULED` when the tick read it, and no request of this module
takes a row out of `SCHEDULED`.
-/

namespace Kagzi

open Atomic

namespace Lifecycle

/-- The edges of the state machine of a run.  The third is the reclaim of a run
whose lease has expired. -/
inductive Transition : WorkflowStatus → WorkflowStatus → Prop where
  | claimPending : Transition .pending .running
  | claimSleeping : Transition .sleeping .running
  | reclaim : Transition .running .running
  | retry : Transition .running .pending
  | sleep : Transition .running .sleeping
  | complete : Transition .running .completed
  | fail : Transition .running .failed
  | cancelPending : Transition .pending .cancelled
  | cancelSleeping : Transition .sleeping .cancelled
  | cancelRunning : Transition .running .cancelled

/-- The server without the requests that manage schedules. -/
abbrev service (cfg : Config) : Service Stmt Stmt.Result World Env Request Status Response :=
  server cfg fun req => req.managesSchedules = false

/-- The next fire time is moved on templates only, and no statement overwrites
or deletes a run. -/
def Guarded : Condition Stmt Stmt.Result World Env := fun _ _ q m =>
  match q with
  | .updateNextFire runId _ _ => ∀ r, m.store.run runId = some r → r.status = .scheduled
  | .updateWorkflow _ _ => False
  | .deleteRun _ => False
  | _ => True

/-- No edge leaves a terminal status. -/
theorem Transition.not_terminal {a b : WorkflowStatus} (h : Transition a b) :
    a.isTerminal = false := by
  cases h <;> rfl

/-- No edge leaves `SCHEDULED`. -/
theorem Transition.not_scheduled {a b : WorkflowStatus} (h : Transition a b) : a ≠ .scheduled := by
  cases h <;> exact fun hs => by cases hs

theorem transition_of_claimable {a : WorkflowStatus} (h : a.isClaimable = true) :
    Transition a .running := by
  cases a with
  | pending => exact .claimPending
  | running => exact .reclaim
  | sleeping => exact .claimSleeping
  | _ => cases h

theorem claimable_of_available {ns taskQueue : String} {types : List String} {e : Env}
    {r : RunRow} (h : r.available ns taskQueue types e = true) : r.status.isClaimable = true := by
  simp only [RunRow.available, Bool.and_eq_true] at h
  exact h.1.1.1.2

/-- What a guarded statement does to a run that exists. -/
theorem guarded_run {i : Nat} {e : Env} {q : Stmt} {m : Now} (hq : Guarded i e q m)
    {runId : Uuid} {r : RunRow} (hr : m.store.run runId = some r) :
    ∃ r', (q.exec e m.store.db).2.run runId = some r' ∧
      (r'.status = r.status ∨ Transition r.status r'.status) ∧
      (r.status.isTerminal = true → r' = r) := by
  have hc := q.exec_run e m.store.db runId
  rw [show m.store.db.run runId = some r from hr] at hc
  have hid : r.runId = runId := Db.runId_of_run hr
  have edge : ∀ {r' : RunRow}, Transition r.status r'.status → ∃ r'', some r' = some r'' ∧
      (r''.status = r.status ∨ Transition r.status r''.status) ∧
      (r.status.isTerminal = true → r'' = r) := by
    intro r' htr
    refine ⟨r', rfl, .inr htr, fun ht => ?_⟩
    rw [htr.not_terminal] at ht
    cases ht
  generalize (q.exec e m.store.db).2.run runId = new at hc
  cases hc with
  | same => exact ⟨r, rfl, .inl rfl, fun _ => rfl⟩
  | claimed hav => exact edge (transition_of_claimable (claimable_of_available hav))
  | extended _ hs => exact ⟨_, rfl, .inl rfl, fun ht => by rw [hs] at ht; cases ht⟩
  | cancelledRunning hs => exact edge (hs ▸ .cancelRunning)
  | cancelledWaiting hs =>
      rcases hs with hs | hs
      · exact edge (hs ▸ .cancelPending)
      · exact edge (hs ▸ .cancelSleeping)
  | completed hs => exact edge (hs ▸ .complete)
  | failed hs => exact edge (hs ▸ .fail)
  | slept hs => exact edge (hs ▸ .sleep)
  | retried hs => exact edge (hs ▸ .retry)
  | nextFired =>
      have hs : r.status = .scheduled := hq r (hid ▸ hr)
      exact ⟨_, rfl, .inl rfl, fun ht => by rw [hs] at ht; cases ht⟩
  | overwritten => exact hq.elim
  | deleted => exact hq.elim
  | orphaned _ _ => exact hq.elim

/-- A template stays a template. -/
theorem scheduled_invariant (runId : Uuid) :
    Invariant (store.restrict Guarded) fun m =>
      ∃ r, m.store.run runId = some r ∧ r.status = .scheduled := by
  rintro i e q m ⟨r, hr, hs⟩ ⟨-, hq⟩
  obtain ⟨r', hr', htr, -⟩ := guarded_run hq hr
  refine ⟨r', hr', ?_⟩
  rcases htr with htr | htr
  · rw [htr, hs]
  · exact absurd hs htr.not_scheduled

/-- A row with a terminal status stays as it is. -/
theorem terminal_invariant {runId : Uuid} {r : RunRow} (ht : r.status.isTerminal = true) :
    Invariant (store.restrict Guarded) fun m => m.store.run runId = some r := by
  rintro i e q m hr ⟨-, hq⟩
  obtain ⟨r', hr', -, hfix⟩ := guarded_run hq hr
  rw [hfix ht] at hr'
  exact hr'

/-- A terminal status stays. -/
theorem hasStatus_invariant {runId : Uuid} {x : WorkflowStatus} (hx : x.isTerminal = true) :
    Invariant (store.restrict Guarded) fun m => m.store.HasStatus runId x := by
  rintro i e q m ⟨r, hr, rfl⟩ ha
  exact ⟨r, terminal_invariant hx i e q m hr ha, rfl⟩

/-! ## Every handler is guarded -/

theorem coordinatorRule (cfg : Config) (i : Nat) :
    CoordinatorRule cfg store Guarded i (fun _ => True)
      (fun _ t m => ∃ r, m.store.run t.runId = some r ∧ r.status = .scheduled)
      (fun _ _ _ => True) (fun _ _ _ => True) where
  inv := fun _ _ _ _ _ _ => trivial
  snap_steady := fun _ t => steady_of_invariant (scheduled_invariant t.runId)
  made_steady := fun _ _ => steady_true
  done_inv := fun _ _ _ _ _ _ _ _ => trivial
  plain := by
    intro e q m hq _ _
    cases q <;> trivial
  read := by
    intro e m now limit ts _ ha hres t ht
    obtain ⟨hrun, hs, -, -⟩ := mem_findDueSchedules hres ht
    exact scheduled_invariant t.runId i e (.findDueSchedules now limit) m
      ⟨t.toRunRow, hrun, hs⟩ ⟨ha, trivial⟩
  skip := by
    rintro e m now t next - - ⟨r, hr, hs⟩ - r' hr'
    rw [hr] at hr'
    rwa [← Option.some.inj hr']
  create := fun _ _ _ _ _ _ _ _ _ _ => trivial
  made := fun _ _ _ _ _ _ _ _ _ _ _ _ => trivial
  advance := by
    rintro e m now t fireAt next - - ⟨r, hr, hs⟩ - - r' hr'
    rw [hr] at hr'
    rwa [← Option.some.inj hr']

/-- A request other than the coordinator makes guarded statements only. -/
theorem guarded_of_may {cfg : Config} {req : Request} (hacc : req.managesSchedules = false)
    (hco : ∀ ticks, req ≠ .coordinator ticks) {q : Stmt} (hq : req.may cfg q) (i : Nat) (e : Env)
    (m : Now) : Guarded i e q m := by
  cases q with
  | updateNextFire runId next last =>
      obtain ⟨ticks, rfl⟩ := hq
      exact absurd rfl (hco ticks)
  | updateWorkflow runId workflow =>
      rw [managesSchedules_of_editsTemplate hq.1] at hacc
      cases hacc
  | deleteRun runId =>
      obtain ⟨⟨r, rfl⟩, -⟩ := hq
      cases hacc
  | _ => trivial

theorem serves (cfg : Config) :
    Serves (service cfg) Guarded (fun _ => True) (Reported fun _ _ _ => True)
      (fun _ _ _ _ => True) :=
  serves_of_rule rfl (fun _ hacc hco _ hq i e m _ _ => guarded_of_may hacc hco hq i e m)
    (coordinatorRule cfg)

/-- From any database, and with the requests interleaved in any way: a terminal
row is final, and every step takes the status of a run along an edge of the
state machine or leaves it. -/
theorem runs_follow_state_machine (cfg : Config) (w : World) {p p' : ServerState}
    (h : Steps (service cfg) (.init w []) p) (h' : Steps (service cfg) p p') (runId : Uuid)
    (r : RunRow) (hr : p.store.run runId = some r) :
    (r.status.isTerminal = true → p'.store.run runId = some r) ∧
      (Atomic.Step (service cfg) p p' → ∃ r', p'.store.run runId = some r' ∧
        (r'.status = r.status ∨ Transition r.status r'.status)) := by
  have hinv : Invariant (store.restrict Guarded) fun _ => True := fun _ _ _ _ _ _ => trivial
  obtain ⟨-, hp⟩ := h.sound (serves cfg) hinv trivial (sound_nil w)
  refine ⟨fun ht => ?_, fun hstep => ?_⟩
  · have hrun := (h'.sound (serves cfg) hinv trivial hp).1
    exact hrun.invariant (terminal_invariant ht) hr
  · have hstep' := (hstep.sound (serves cfg) trivial hp).1
    cases hstep' with
    | start _ => exact ⟨r, hr, .inl rfl⟩
    | exec _ ha =>
        obtain ⟨r', hr', htr, -⟩ := guarded_run ha.2 hr
        exact ⟨r', hr', htr⟩

/-- A run that is started, cancelled, and then terminated in vain. -/
def cancelledThenTerminated : List (Action Env Request) :=
  [.start (.startWorkflow ⟨"job", "queue", "type", none, "ns", "", none⟩)] ++ runs 0 6 (.quiet 0 1) ++
    [.start (.cancelWorkflow ⟨"1", "ns"⟩)] ++ runs 1 2 (.quiet 5 2)

theorem runs_follow_state_machine_cancelled :
    let p := fireAll (service .sample) (.init (.empty 0) []) cancelledThenTerminated
    let p' := fireAll (service .sample) p
      ([.start (.terminateWorkflow ⟨"1", "ns", "late"⟩)] ++ runs 2 1 (.quiet 9 3))
    (p'.store.run 1).map RunRow.status = some .cancelled := by
  intro p p'
  have hp : Steps (service .sample) (.init (.empty 0) []) p :=
    AllEnabled.steps (by decide +kernel)
  have hp' : Steps (service .sample) p p' := AllEnabled.steps (by decide +kernel)
  have hstatus : (p.store.run 1).map RunRow.status = some .cancelled := by decide +kernel
  obtain ⟨r, hr, hs⟩ := Option.map_eq_some_iff.mp hstatus
  have hfinal := (runs_follow_state_machine .sample (.empty 0) hp hp' 1 r hr).1 (by rw [hs]; rfl)
  rw [hfinal, Option.map_some, hs]

end Lifecycle

end Kagzi
