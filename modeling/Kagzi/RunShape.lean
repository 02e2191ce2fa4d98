import Kagzi.Lifecycle

/-!
# The shape of a run

The update statements set some of the columns of a run each, and leave the others as
they are.  `Shape` is what they keep together: which columns are set is a matter of the
status, and the attempts are the claims that polls have made.

`rows_have_shape` proves it of every row of a store that has begun with templates alone.
-/

namespace Kagzi

open Atomic

namespace RunShape

/-- The server without the requests that manage schedules. -/
abbrev service (cfg : Config) : Service Stmt Stmt.Result World Env Request Status Response :=
  Lifecycle.service cfg

/-- The columns of a run that has been claimed that many times. -/
structure Shape (r : RunRow) (claims : Nat) : Prop where
  locked : r.lockedBy ≠ none ↔ r.status = .running
  available : r.availableAt = none ↔ r.status.isTerminal = true
  finished : r.finishedAt ≠ none ↔ r.status.isTerminal = true
  error : r.error ≠ none → r.status = .failed
  started : r.startedAt ≠ none ↔ 0 < r.attempts
  attempts : r.attempts = claims

instance (r : RunRow) (claims : Nat) : Decidable (Shape r claims) :=
  decidable_of_iff
    ((r.lockedBy ≠ none ↔ r.status = .running) ∧ (r.availableAt = none ↔ r.status.isTerminal = true) ∧
      (r.finishedAt ≠ none ↔ r.status.isTerminal = true) ∧ (r.error ≠ none → r.status = .failed) ∧
      (r.startedAt ≠ none ↔ 0 < r.attempts) ∧ r.attempts = claims)
    ⟨fun h => ⟨h.1, h.2.1, h.2.2.1, h.2.2.2.1, h.2.2.2.2.1, h.2.2.2.2.2⟩,
      fun h => ⟨h.locked, h.available, h.finished, h.error, h.started, h.attempts⟩⟩

/-- The row of a template that no poll has claimed. -/
def WellFormedTemplate (r : RunRow) : Prop := r.status.isScheduleTemplate = true ∧ Shape r 0

instance : DecidablePred WellFormedTemplate := fun _ => inferInstanceAs (Decidable (_ ∧ _))

/-- A poll that has written the row of a run has claimed it. -/
def Claims (old new : Option RunRow) : Stmt → Prop
  | .pollWorkflow _ _ _ _ _ => new ≠ old
  | _ => False

instance (old new : Option RunRow) : DecidablePred (Claims old new) := fun q => by
  apply Stmt.casesOn (motive := fun q => Decidable (Claims old new q)) q
  case pollWorkflow =>
    intros
    exact inferInstanceAs (Decidable (new ≠ old))
  all_goals
    intros
    exact inferInstanceAs (Decidable False)

/-- How often the run has been claimed.  `w` is the store at the start. -/
def claims (w : World) (runId : Uuid) : List Ran → Nat
  | [] => 0
  | ran :: earlier =>
      claims w runId earlier +
        if Claims ((store.replay w earlier).run runId) ((store.replay w (ran :: earlier)).run runId)
          ran.query then 1 else 0

/-! ## What the updates set -/

section Updates
variable {r : RunRow} {n : Nat} {now : Int}

theorem Shape.error_none (h : Shape r n) (hs : r.status ≠ .failed) : r.error = none := by
  by_contra hne
  exact hs (h.error hne)

theorem Shape.unfinished (h : Shape r n) (hs : r.status.isTerminal = false) : r.finishedAt = none := by
  by_contra hne
  rw [h.finished.mp hne] at hs
  cases hs

theorem shape_created (params : CreateWorkflow) : Shape (RunRow.created params now) 0 := by
  constructor <;> simp [RunRow.created, WorkflowStatus.isTerminal]

theorem shape_instanceOf (t : RunRow) (runId : Uuid) (fireAt : Int) :
    Shape (t.instanceOf runId fireAt now) 0 := by
  constructor <;> simp [RunRow.instanceOf, WorkflowStatus.isTerminal]

theorem Shape.claim (h : Shape r n) (hs : r.status.isClaimable = true) (workerId : String) (secs : Int) :
    Shape (r.claim workerId secs now) (n + 1) := by
  have hlive : r.status.isTerminal = false ∧ r.status ≠ .failed := by
    revert hs
    cases r.status <;> simp [WorkflowStatus.isClaimable, WorkflowStatus.isTerminal]
  have hfinished := h.unfinished hlive.1
  have herror := h.error_none hlive.2
  have hattempts := h.attempts
  constructor <;> simp [RunRow.claim, WorkflowStatus.isTerminal, hfinished, herror] <;> omega

theorem Shape.extend (h : Shape r n) (hs : r.status = .running) (secs : Int) :
    Shape (r.extend secs now) n := by
  have havailable := h.available
  rw [hs] at havailable
  exact ⟨h.locked, by simpa [RunRow.extend, hs] using havailable, h.finished, h.error, h.started,
    h.attempts⟩

theorem Shape.cancel (h : Shape r n) (hs : r.status ≠ .failed) : Shape (r.cancel now) n := by
  have herror := h.error_none hs
  exact ⟨by simp [RunRow.cancel], by simp [RunRow.cancel, WorkflowStatus.isTerminal],
    by simp [RunRow.cancel, WorkflowStatus.isTerminal], by simp [RunRow.cancel, herror], h.started,
    h.attempts⟩

theorem Shape.complete (h : Shape r n) (hs : r.status = .running) : Shape (r.complete now) n := by
  have herror := h.error_none (by simp [hs])
  exact ⟨by simp [RunRow.complete], by simp [RunRow.complete, WorkflowStatus.isTerminal],
    by simp [RunRow.complete, WorkflowStatus.isTerminal], by simp [RunRow.complete, herror], h.started,
    h.attempts⟩

theorem Shape.setFailed (h : Shape r n) (error : String) : Shape (r.setFailed error now) n :=
  ⟨by simp [RunRow.setFailed], by simp [RunRow.setFailed, WorkflowStatus.isTerminal],
    by simp [RunRow.setFailed, WorkflowStatus.isTerminal], by simp [RunRow.setFailed], h.started,
    h.attempts⟩

theorem Shape.sleep (h : Shape r n) (hs : r.status = .running) (secs : Nat) :
    Shape (r.sleep secs now) n := by
  have herror := h.error_none (by simp [hs])
  have hfinished := h.unfinished (by rw [hs]; rfl)
  exact ⟨by simp [RunRow.sleep], by simp [RunRow.sleep, WorkflowStatus.isTerminal],
    by simp [RunRow.sleep, WorkflowStatus.isTerminal, hfinished], by simp [RunRow.sleep, herror],
    h.started, h.attempts⟩

theorem Shape.retry (h : Shape r n) (hs : r.status = .running) (delayMs : Nat) :
    Shape (r.retry delayMs now) n := by
  have herror := h.error_none (by simp [hs])
  have hfinished := h.unfinished (by rw [hs]; rfl)
  exact ⟨by simp [RunRow.retry], by simp [RunRow.retry, WorkflowStatus.isTerminal],
    by simp [RunRow.retry, WorkflowStatus.isTerminal, hfinished], by simp [RunRow.retry, herror],
    h.started, h.attempts⟩

theorem Shape.nextFire (h : Shape r n) (hs : r.status = .scheduled) (next : Int) (last : Option Int) :
    Shape (r.nextFire next last) n :=
  ⟨h.locked, by simp [RunRow.nextFire, hs, WorkflowStatus.isTerminal], h.finished, h.error, h.started,
    h.attempts⟩

end Updates

/-! ## One statement -/

/-- The run has its shape, or is not there and has not been claimed. -/
def Fits (n : Nat) : Option RunRow → Prop
  | none => n = 0
  | some r => Shape r n

/-- What a statement leaves as it is it does not claim. -/
theorem not_claims_of_same {o : Option RunRow} {q : Stmt} : ¬ Claims o o q := by
  cases q with
  | pollWorkflow _ _ _ _ _ => exact fun hne => hne rfl
  | _ => exact fun hno => hno

/-- What becomes of the shape of a run under a guarded statement. -/
theorem fits_of_change {i : Nat} {e : Env} {q : Stmt} {m : Now} {runId : Uuid} {new : Option RunRow}
    {n : Nat} (hq : Lifecycle.Guarded i e q m) (hc : RunChange e q (m.store.run runId) new)
    (h : Fits n (m.store.run runId)) :
    Fits (n + if Claims (m.store.run runId) new q then 1 else 0) new := by
  generalize hold : m.store.run runId = old at hc h
  cases hc with
  | same => simpa [not_claims_of_same] using h
  | created =>
      obtain rfl : n = 0 := h
      exact shape_created _
  | instantiated =>
      obtain rfl : n = 0 := h
      exact shape_instanceOf _ _ _
  | @claimed ns taskQueue workerId types secs r hav =>
      have hne : some (r.claim workerId secs e.now) ≠ some r := by
        intro heq
        have hattempts := congrArg RunRow.attempts (Option.some.inj heq)
        simp only [RunRow.claim] at hattempts
        omega
      rw [if_pos (show Claims _ _ (.pollWorkflow ns taskQueue workerId types secs) from hne)]
      exact Shape.claim h (Lifecycle.claimable_of_available hav) workerId secs
  | extended _ hs => exact Shape.extend h hs _
  | cancelledRunning hs => exact Shape.cancel h (by simp [hs])
  | cancelledWaiting hs => exact Shape.cancel h (by rcases hs with hs | hs <;> simp [hs])
  | completed hs => exact Shape.complete h hs
  | failed hs => exact Shape.setFailed h _
  | slept hs => exact Shape.sleep h hs _
  | retried hs => exact Shape.retry h hs _
  | @nextFired next last r =>
      exact Shape.nextFire h (hq r ((Db.runId_of_run hold).symm ▸ hold)) next last
  | overwritten => exact hq.elim
  | deleted => exact hq.elim
  | orphaned _ _ => exact hq.elim

/-! ## The result -/

/-- The run has its shape, or is not there yet. -/
def Shaped (w : World) (runId : Uuid) (m : Now) : Prop :=
  Replayed store w m ∧ Fits (claims w runId m.trace) (m.store.run runId)

theorem shaped_kept (w : World) (runId : Uuid) :
    Invariant (store.restrict Lifecycle.Guarded) (Shaped w runId) := by
  rintro i e q m ⟨hm, hfits⟩ ha
  have hafter := replayed_invariant store (store.restrict Lifecycle.Guarded) rfl w i e q m hm ha
  refine ⟨hafter, ?_⟩
  have hbefore : store.replay w m.trace = m.store := Eq.symm hm
  have hclaims : claims w runId (m.after store i e q).trace = claims w runId m.trace +
      if Claims (m.store.run runId) ((q.exec e m.store.db).2.run runId) q then 1 else 0 := by
    simp only [Moment.after_trace, claims, Engine.replay, hbefore]
    rfl
  show Fits (claims w runId (m.after store i e q).trace) _
  rw [hclaims]
  exact fits_of_change ha.2 (q.exec_run e m.store.db runId) hfits

/-- In every state that is reached from well-formed templates, each run has the shape of
one that has been claimed as often as it has. -/
theorem rows_have_shape (cfg : Config) {w : World} (hw : ∀ r ∈ w.db.runs.rows, WellFormedTemplate r)
    {p : ServerState} (h : Steps (service cfg) (.init w []) p) :
    ∀ r ∈ p.store.db.runs.rows, Shape r (claims w r.runId p.trace) := by
  intro r hr
  have hstart : ∀ runId, Shaped w runId ⟨w, []⟩ := by
    intro runId
    refine ⟨rfl, ?_⟩
    show Fits 0 (w.run runId)
    cases hrow : w.run runId with
    | none => rfl
    | some r => exact (hw r (Db.mem_of_run hrow)).2
  have hinv : Invariant (store.restrict Lifecycle.Guarded) fun _ => True := fun _ _ _ _ _ _ => trivial
  have hrun := (h.sound (Lifecycle.serves cfg) hinv trivial (sound_nil w)).1
  have hfits := (hrun.invariant (shaped_kept w r.runId) (hstart r.runId)).2
  rwa [show p.store.run r.runId = some r from Db.run_of_mem hr] at hfits

/-- The store after a schedule was created. -/
def scheduledWorld : World :=
  (fireAll (server .sample fun _ => True) (.init (.empty 0) []) (createTenSeconds none)).store

/-- The schedule fires, and a worker takes the instance. -/
def firedAndTaken : ServerState :=
  fireAll (service .sample) (.init scheduledWorld [])
    ([.start (.coordinator 1)] ++ runs 0 4 (.quiet 20 5) ++
    [.start (.register ⟨"ns", "queue", ["type"], "host", 7, ""⟩)] ++ runs 1 1 (.quiet 20 6) ++
    [.start (.pollTask ⟨"queue", "6", "ns", ["type"]⟩ 0)] ++ runs 2 2 (.quiet 20 7))

theorem rows_have_shape_taken :
    ∃ r ∈ firedAndTaken.store.db.runs.rows, r.status = .running ∧ r.scheduleId.isSome = true ∧
      Shape r (claims scheduledWorld r.runId firedAndTaken.trace) := by
  obtain ⟨r, hr, hs, hinstance⟩ : ∃ r ∈ firedAndTaken.store.db.runs.rows,
      r.status = .running ∧ r.scheduleId.isSome = true := by decide +kernel
  exact ⟨r, hr, hs, hinstance,
    rows_have_shape .sample (by decide +kernel) (AllEnabled.steps (by decide +kernel)) r hr⟩

end RunShape

end Kagzi
