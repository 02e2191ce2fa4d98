import Kagzi.Server.Service
import Kagzi.Store.StepChange

/-!
# Attempts of a step that are running

`begin`, `complete` and `fail` take `is_latest` from the attempt that they find, and none
of them looks at its status.  An attempt that is running when another replaces it is never
ended: all later updates look for the latest attempt only.

`one_live_iff` says that this is the only way to a running attempt that is not the latest
of its step.  `two_attempts_run` is a step that is begun twice.
-/

namespace Kagzi

open Atomic Relational

namespace LiveAttempts

/-- The server, for all requests. -/
abbrev service (cfg : Config) : Service Stmt Stmt.Result World Env Request Status Response :=
  server cfg fun _ => True

/-- At most one attempt of each step is running, and it is the latest one. -/
structure OneLive (w : World) : Prop where
  latest : ∀ s ∈ w.db.steps.rows, s.status = .running → s.isLatest = true
  single : ∀ s ∈ w.db.steps.rows, ∀ s' ∈ w.db.steps.rows, s.runId = s'.runId → s.stepId = s'.stepId →
    s.status = .running → s'.status = .running → s = s'

/-- No state of a run from an empty store has two running attempts of one step, or one that
is not the latest. -/
def OneLiveAttempt (S : Service Stmt Stmt.Result World Env Request Status Response) : Prop :=
  ∀ (now : Int) (p : ServerState), Steps S (.init (.empty now) []) p → OneLive p.store

/-! ## The condition -/

/-- The latest attempt of the step is running. -/
def Runs (w : World) (runId : Uuid) (stepId : String) : Prop :=
  (w.latest runId stepId).map StepRow.status = some .running

/-- The row can be inserted once the latest attempt of its step is demoted: its run is there,
and its id is new. -/
def Fresh (w : World) (step : NewStep) : Prop :=
  (w.run step.runId).isSome = true ∧ ∀ s ∈ w.db.steps.rows, s.attemptId ≠ step.attemptId

/-- A statement that replaces the latest attempt of a step finds that it is not running. -/
def Closing : Condition Stmt Stmt.Result World Env := fun _ e q m =>
  match q with
  | .supersede step =>
      e.fault = false → Runs m.store step.runId step.stepId → ¬ Fresh m.store step
  | _ => True

instance (w : World) (runId : Uuid) (stepId : String) : Decidable (Runs w runId stepId) :=
  inferInstanceAs (Decidable (_ = _))

instance (w : World) (step : NewStep) : Decidable (Fresh w step) :=
  inferInstanceAs (Decidable (_ ∧ _))

instance (i : Nat) (e : Env) (q : Stmt) (m : Now) : Decidable (Closing i e q m) := by
  apply Stmt.casesOn (motive := fun q => Decidable (Closing i e q m)) q
  case supersede => exact fun step => inferInstanceAs (Decidable (_ → _ → _))
  all_goals intros; exact .isTrue trivial

/-! ## One statement -/

section Statements
variable {e : Env} {q : Stmt} {w : World} {s : StepRow}

/-- The attempts that are latest are one for each step. -/
theorem oneLive_iff :
    OneLive w ↔ ∀ s ∈ w.db.steps.rows, s.status = .running → s.isLatest = true := by
  refine ⟨OneLive.latest, fun hlatest => ⟨hlatest, fun s hs s' hs' hrun hstep hlive hlive' => ?_⟩⟩
  refine w.db.steps.eq_of_clash hs hs' (.inr ⟨?_, ?_, hrun, hstep⟩)
  · exact hlatest s hs hlive
  · exact hlatest s' hs' hlive'

/-- The attempt that is replaced stays in the table, without its flag. -/
theorem supersede_demotes {step : NewStep} (h : (supersede step e w.db).1 = .ok true)
    (hs : w.latest step.runId step.stepId = some s) :
    s.demote ∈ (supersede step e w.db).2.steps.rows := by
  have hlatest : w.db.latest step.runId step.stepId = some s := hs
  obtain ⟨steps, hu, hrows⟩ := w.db.demotes step.runId step.stepId
  have hmem : s.demote ∈ steps.rows := by
    rw [hrows]
    exact List.mem_map.mpr ⟨s, Db.mem_of_latest hlatest, amend_of_true (Db.isLatestOf_of_latest hlatest)⟩
  revert h
  unfold supersede
  rw [hlatest, hu]
  simp only [Option.isSome_some, if_true]
  split
  next hi => exact fun _ => mem_insertStep hi hmem
  next => exact nofun

/-- Of the updates of steps, only that of a replacement touches the flag. -/
theorem demote_of_stepUpdate {p : StepRow → Bool} {f : StepRow → StepRow}
    (h : q.stepUpdate e = some (p, f)) (hne : (f s).isLatest ≠ s.isLatest) :
    ∃ step, q = .supersede step ∧ p = StepRow.isLatestOf step.runId step.stepId ∧
      f = StepRow.demote := by
  cases q with
  | supersede step => cases h; exact ⟨step, rfl, rfl, rfl⟩
  | completeRunningStep _ _ _ => cases h; exact absurd rfl hne
  | failRunningStep _ _ _ => cases h; exact absurd rfl hne
  | failLatestStep _ _ _ => cases h; exact absurd rfl hne
  | completePendingSleeps _ => cases h; exact absurd rfl hne
  | recordLatestStep _ _ _ _ _ => cases h; exact absurd rfl hne
  | _ => cases h

/-- A running attempt loses its flag to a replacement that gets through. -/
theorem overrun_of_demoted {step : NewStep} (hs : s.isLatestOf step.runId step.stepId = true)
    (hmem : s ∈ w.db.steps.rows) (hlive : s.status = .running)
    (hdone : (store.exec e (.supersede step) w).2.db ≠ w.db) :
    e.fault = false ∧ Runs w step.runId step.stepId ∧ Fresh w step := by
  have hlatest : w.latest step.runId step.stepId = some s := Db.latest_of_mem hmem hs
  have hfault : e.fault = false := by
    rw [Bool.eq_false_iff]
    intro hfault
    exact hdone (congrArg Prod.snd (Stmt.exec_of_fault hfault rfl))
  have hok : (supersede step e w.db).1 = .ok true := by
    by_contra hmiss
    refine hdone ?_
    rw [store_exec_db, Stmt.exec_of_safe hfault]
    exact supersede_miss hmiss
  exact ⟨hfault, by simp [Runs, hlatest, hlive], (supersede_ok_iff.mp hok).2⟩

variable {i : Nat} {m : Now}

/-- One statement that replaces no running attempt. -/
theorem OneLive.after (h : OneLive m.store) (hclosing : Closing i e q m) :
    OneLive (m.after store i e q).store := by
  refine oneLive_iff.mpr fun s hs hlive => ?_
  by_cases hsame : (store.exec e q m.store).2.db = m.store.db
  · rw [Moment.after_store, hsame] at hs
    exact h.latest s hs hlive
  cases Stmt.exec_attempt hs with
  | kept hold => exact h.latest s hold hlive
  | inserted hq => rfl
  | @updated s p f hold hq hp =>
      by_contra hdemoted
      have hlatest : s.isLatest = true := Stmt.stepUpdate_latest hq hp
      obtain ⟨step, rfl, rfl, rfl⟩ := demote_of_stepUpdate hq fun hflag => hdemoted (hflag.trans hlatest)
      obtain ⟨hfault, hruns, hfresh⟩ := overrun_of_demoted hp hold hlive hsame
      exact hclosing hfault hruns hfresh

/-- What was not so before is not so afterwards: an attempt without its flag stays as it is. -/
theorem OneLive.before (h : OneLive (m.after store i e q).store) : OneLive m.store := by
  refine oneLive_iff.mpr fun s hs hlive => ?_
  by_contra hold
  refine hold (h.latest s (Stmt.exec_kept hs fun p f hq => ?_) hlive)
  rw [Bool.eq_false_iff]
  exact fun hp => hold (Stmt.stepUpdate_latest hq hp)

/-- A replacement of a running attempt leaves it running without its flag. -/
theorem OneLive.closing (h : OneLive (m.after store i e q).store) : Closing i e q m := by
  unfold Closing
  split
  next step =>
    intro hfault hruns hfresh
    obtain ⟨s, hs, hlive⟩ := Option.map_eq_some_iff.mp hruns
    have hok : (supersede step e m.store.db).1 = .ok true :=
      supersede_ok_iff.mpr ⟨Option.isSome_of_eq_some hs, hfresh⟩
    have hmem : s.demote ∈ (m.after store i e (.supersede step)).store.db.steps.rows := by
      rw [Moment.after_store, store_exec_db, Stmt.exec_of_safe hfault]
      exact supersede_demotes hok hs
    cases h.latest s.demote hmem hlive
  next => trivial

end Statements

/-! ## Runs -/

/-- A run that has led to a state without forgotten attempts has replaced no running one. -/
theorem closing_of_live {cfg : Config} {p p' : ServerState} (h : Steps (service cfg) p p')
    (hlive : OneLive p'.store) : Steps ((service cfg).restrict Closing) p p' := by
  induction h with
  | refl => exact .refl
  | tail _ hstep ih =>
      cases hstep with
      | start ha => exact (ih hlive).tail (.start ha)
      | exec hc ha =>
          exact (ih hlive.before).tail (.exec (S := (service cfg).restrict Closing) hc ⟨ha, hlive.closing⟩)

/-- The states that a run reaches from an empty store have at most one running attempt of each
step, the latest one, exactly if no statement of the run replaces a running attempt. -/
theorem one_live_iff (cfg : Config) (now : Int) (p : ServerState)
    (h : Steps (service cfg) (.init (.empty now) []) p) :
    OneLive p.store ↔ Steps ((service cfg).restrict Closing) (.init (.empty now) []) p := by
  refine ⟨closing_of_live h, fun hclosing => ?_⟩
  refine hclosing.invariant (I := fun m => OneLive m.store) ?_ ?_
  · exact fun i e q m hm (ha : store.admits i e q m ∧ Closing i e q m) => hm.after ha.2
  · exact oneLive_iff.mpr fun s hs => nomatch hs

/-! ## A step that is begun twice -/

/-- A worker begins a step of the run it was handed. -/
def beginOnce : List (Action Env Request) :=
  [.start (.startWorkflow ⟨"job", "queue", "type", none, "ns", "", none⟩)] ++
    runs 0 6 (.quiet 0 1) ++
  [.start (.register ⟨"ns", "queue", ["type"], "host", 7, ""⟩)] ++ runs 1 1 (.quiet 0 2) ++
  [.start (.pollTask ⟨"queue", "2", "ns", ["type"]⟩ 0)] ++ runs 2 7 (.quiet 0 3) ++
  [.start (.beginStep ⟨"ns", "1", "step", 1, none, none⟩)] ++ runs 3 7 (.quiet 0 4)

/-- It begins the step again, since it has not seen the answer. -/
def begunTwice : ServerState :=
  fireAll (service .sample) (.init (.empty 0) [])
    (beginOnce ++ [.start (.beginStep ⟨"ns", "1", "step", 1, none, none⟩)] ++ runs 4 6 (.quiet 0 5))

/-- It begins the step again after it has reported a failure. -/
def retry : List (Action Env Request) :=
  beginOnce ++ [.start (.failStep ⟨"ns", "1", "step", none⟩)] ++ runs 4 4 (.quiet 1 5) ++
    [.start (.beginStep ⟨"ns", "1", "step", 1, none, none⟩)] ++ runs 5 6 (.quiet 2 6)

theorem one_live_iff_retry :
    OneLive (fireAll (service .sample) (.init (.empty 0) []) retry).store := by
  have h : Steps (service .sample) (.init (.empty 0) []) (fireAll _ (.init (.empty 0) []) retry) :=
    AllEnabled.steps (by decide +kernel)
  have hclosing : Steps ((service .sample).restrict Closing) (.init (.empty 0) [])
      (fireAll _ (.init (.empty 0) []) retry) :=
    AllEnabled.steps (by decide +kernel)
  rw [fireAll_restrict] at hclosing
  exact (one_live_iff .sample 0 _ h).mpr hclosing

theorem two_attempts_run : ¬ OneLiveAttempt (service .sample) := by
  intro hall
  have h : Steps (service .sample) (.init (.empty 0) []) begunTwice :=
    AllEnabled.steps (by decide +kernel)
  have hstale : ∃ s ∈ begunTwice.store.db.steps.rows, s.status = .running ∧ s.isLatest = false := by
    decide +kernel
  obtain ⟨s, hs, hlive, hflag⟩ := hstale
  have hlatest := (hall 0 _ h).latest s hs hlive
  rw [hflag] at hlatest
  cases hlatest

end LiveAttempts

end Kagzi
