import Kagzi.Server.Footprint
import Kagzi.Server.Templates

/-!
# Paused schedules

While a schedule is paused, no instance of it is meant to be created, and when it
is resumed it is meant to start from there: nothing that fell into the pause is
made up for.  A tick works on the templates as it read them, so it still creates
the instance of a template that was paused meanwhile (`pause_not_respected`), and
moves the fire times of one that was resumed meanwhile back into the pause.  And
the missed occurrences are counted from the last fire time, which lies before the
pause: after a long pause the tick finds too many of them and skips to one inside
the pause.

In the runs without these steps a pause is respected
(`pause_respected_if_current`).
-/

namespace Kagzi

open Atomic

namespace Pause

/-- The server, for all requests. -/
abbrev service (cfg : Config) : Service Stmt Stmt.Result World Env Request Status Response :=
  server cfg fun _ => True

/-! ## The history of a schedule -/

/-- The row that an edit of the template wrote over it. -/
def edit (templateRunId : Uuid) : Ran → Option RunRow
  | ⟨_, _, .updateWorkflow runId workflow, .ok _⟩ =>
      if runId = templateRunId then some workflow else none
  | _ => none

/-- The statement pauses the template. -/
def Pauses (templateRunId : Uuid) (ran : Ran) : Prop :=
  ∃ workflow, edit templateRunId ran = some workflow ∧ workflow.status = .paused

/-- The statement resumes the template: an edit leaves it enabled. -/
def Resumes (templateRunId : Uuid) (ran : Ran) : Prop :=
  ∃ workflow, edit templateRunId ran = some workflow ∧ workflow.status ≠ .paused

/-- The statement creates an instance of the template for a slot. -/
def Creates (templateRunId : Uuid) (fireAt : Int) (ran : Ran) : Prop :=
  ∃ runId, creation ran = some (templateRunId, fireAt, some runId)

/-- The template has been paused, and not resumed since. -/
def Paused (templateRunId : Uuid) : List Ran → Prop
  | [] => False
  | ran :: trace =>
      Pauses templateRunId ran ∨ ¬ Resumes templateRunId ran ∧ Paused templateRunId trace

/-- The statement of the trace that ended a pause. -/
def Ends (templateRunId : Uuid) (resume : Ran) : List Ran → Prop
  | [] => False
  | ran :: trace =>
      (resume = ran ∧ Resumes templateRunId ran ∧ Paused templateRunId trace) ∨
        Ends templateRunId resume trace

/-- The request number `i` is a `PauseWorkflowSchedule` that has returned, and the
template has not been resumed since it wrote. -/
def Returned (templateRunId : Uuid) (i : Nat) (p : ServerState) : Prop :=
  ∃ req resp since pause earlier,
    p.returned i = some (.pauseWorkflowSchedule req, resp) ∧
      p.trace = since ++ pause :: earlier ∧ pause.caller = i ∧ Pauses templateRunId pause ∧
      ∀ ran ∈ since, ¬ Resumes templateRunId ran

/-- What is promised about the statements that come after a pause: no instance is
created before the next resume, and none after it for a slot inside the pause. -/
structure Respected (templateRunId : Uuid) (pausedAt : Int) (later : List Ran) : Prop where
  none_while : ∀ after create before, later = after ++ create :: before →
    (∀ ran ∈ before, ¬ Resumes templateRunId ran) → ∀ fireAt,
      ¬ Creates templateRunId fireAt create
  none_inside : ∀ after resume before, later = after ++ resume :: before →
    Resumes templateRunId resume → (∀ ran ∈ before, ¬ Resumes templateRunId ran) →
      ∀ create ∈ after, ∀ fireAt, Creates templateRunId fireAt create →
        ¬ (pausedAt < fireAt ∧ fireAt < resume.env.now)

/-- Every pause of every template is respected in the runs that meet a
condition. -/
def PauseRespected (cfg : Config) (C : Uuid → Condition Stmt Stmt.Result World Env) : Prop :=
  ∀ (templateRunId : Uuid) (w : World) (p p' : ServerState) (i : Nat) (later : List Ran),
    Steps ((service cfg).restrict (C templateRunId)) (.init w []) p →
    Steps ((service cfg).restrict (C templateRunId)) p p' →
    Returned templateRunId i p → p'.trace = later ++ p.trace →
      Respected templateRunId p.store.now later

/-- The statements since the last read of the coordinator `i`. -/
def sinceRead (i : Nat) (trace : List Ran) : List Ran :=
  trace.takeWhile fun ran => !(ran.caller = i && ran.query.isRead)

/-- The coordinator acts on a template only as long as what it read of it holds.
An edit that enables the template is written before the fire time it sets.  And a
tick does not find more occurrences than it may catch up on, or it finds that many
since the pause was ended. -/
def Current (cfg : Config) (templateRunId : Uuid) : Condition Stmt Stmt.Result World Env :=
  fun i e q m =>
    match q with
    | .createScheduleInstance template _ =>
        template = templateRunId → ∀ ran ∈ sinceRead i m.trace, ¬ Pauses templateRunId ran
    | .updateNextFire runId _ _ =>
        runId = templateRunId → (∀ ran ∈ sinceRead i m.trace, ¬ Pauses templateRunId ran) ∨
          ∀ ran ∈ sinceRead i m.trace, ¬ Resumes templateRunId ran
    | .updateWorkflow runId workflow =>
        runId = templateRunId → workflow.status ≠ .paused → ∀ a ∈ workflow.availableAt, e.now < a
    | .findDueSchedules now _ =>
        ∀ r ∈ m.store.run templateRunId, ∀ a ∈ r.availableAt, ∀ expr ∈ r.cronExpr, ∀ cron,
          cfg.cronSchedule expr = .ok cron → ∀ resume, Ends templateRunId resume m.trace →
            Coordinator.missedCount cron (Coordinator.cursor r a) now ≤ asUsize r.maxCatchup ∨
              asUsize r.maxCatchup ≤ Coordinator.missedCount cron resume.env.now now
    | _ => True

section Decisions
variable (templateRunId : Uuid)

instance (ran : Ran) : Decidable (Pauses templateRunId ran) :=
  inferInstanceAs (Decidable (∃ workflow ∈ edit templateRunId ran, _))

instance (ran : Ran) : Decidable (Resumes templateRunId ran) :=
  inferInstanceAs (Decidable (∃ workflow ∈ edit templateRunId ran, _))

instance decPaused : (trace : List Ran) → Decidable (Paused templateRunId trace)
  | [] => inferInstanceAs (Decidable False)
  | ran :: trace =>
      have := decPaused trace
      inferInstanceAs (Decidable (Pauses templateRunId ran ∨
        ¬ Resumes templateRunId ran ∧ Paused templateRunId trace))

/-- The statements of the trace that ended a pause, newest first. -/
def ends : List Ran → List Ran
  | [] => []
  | ran :: trace =>
      if Resumes templateRunId ran ∧ Paused templateRunId trace then ran :: ends trace
      else ends trace

theorem mem_ends {resume : Ran} :
    ∀ {trace : List Ran}, resume ∈ ends templateRunId trace ↔ Ends templateRunId resume trace
  | [] => by simp [ends, Ends]
  | ran :: trace => by
      unfold ends Ends
      split
      next h => rw [List.mem_cons, mem_ends, and_iff_left h]
      next h =>
        rw [mem_ends, or_iff_right]
        exact fun h' => h h'.2

theorem toOption_eq_some {ε α : Type} {x : Except ε α} {a : α} :
    x.toOption = some a ↔ x = .ok a := by
  cases x <;> simp [Except.toOption]

end Decisions

instance (cfg : Config) (templateRunId : Uuid) (i : Nat) (e : Env) (q : Stmt) (m : Now) :
    Decidable (Current cfg templateRunId i e q m) := by
  apply Stmt.casesOn (motive := fun q => Decidable (Current cfg templateRunId i e q m)) q
  case createScheduleInstance =>
    intro template fireAt
    exact inferInstanceAs (Decidable (template = templateRunId →
      ∀ ran ∈ sinceRead i m.trace, ¬ Pauses templateRunId ran))
  case updateNextFire =>
    intro runId next last
    exact inferInstanceAs (Decidable (runId = templateRunId →
      (∀ ran ∈ sinceRead i m.trace, ¬ Pauses templateRunId ran) ∨
        ∀ ran ∈ sinceRead i m.trace, ¬ Resumes templateRunId ran))
  case updateWorkflow =>
    intro runId workflow
    exact inferInstanceAs (Decidable (runId = templateRunId → workflow.status ≠ .paused →
      ∀ a ∈ workflow.availableAt, e.now < a))
  case findDueSchedules =>
    intro now limit
    refine decidable_of_iff (∀ r ∈ m.store.run templateRunId, ∀ a ∈ r.availableAt,
      ∀ expr ∈ r.cronExpr, ∀ cron ∈ (cfg.cronSchedule expr).toOption,
        ∀ resume ∈ ends templateRunId m.trace,
          Coordinator.missedCount cron (Coordinator.cursor r a) now ≤ asUsize r.maxCatchup ∨
            asUsize r.maxCatchup ≤ Coordinator.missedCount cron resume.env.now now) ?_
    simp only [Current, mem_ends, Option.mem_def, toOption_eq_some]
  all_goals
    intros
    exact inferInstanceAs (Decidable True)

/-! ## Facts about the history -/

section History
variable {templateRunId : Uuid} {i : Nat} {e : Env} {q : Stmt} {m : Now}

theorem edit_inv {a : q.Result} {workflow : RunRow}
    (h : edit templateRunId ⟨i, e, q, a⟩ = some workflow) :
    q = .updateWorkflow templateRunId workflow := by
  cases q with
  | updateWorkflow runId written =>
      cases a with
      | error x => cases h
      | ok u =>
          change (if runId = templateRunId then some written else none) = some workflow at h
          split at h
          next hid => rw [hid, Option.some.inj h]
          next => cases h
  | _ => cases h

theorem Pauses.not_resumes {ran : Ran} (h : Pauses templateRunId ran) :
    ¬ Resumes templateRunId ran := by
  rintro ⟨workflow, hw, hs⟩
  obtain ⟨workflow', hw', hs'⟩ := h
  obtain rfl := Option.some.inj (hw.symm.trans hw')
  exact hs hs'

theorem Paused.append {earlier : List Ran} (h : Paused templateRunId earlier) :
    ∀ {later : List Ran}, (∀ ran ∈ later, ¬ Resumes templateRunId ran) →
      Paused templateRunId (later ++ earlier)
  | [], _ => h
  | ran :: _, hno =>
      .inr ⟨hno ran (List.mem_cons_self ..),
        h.append fun ran hran => hno ran (List.mem_cons_of_mem _ hran)⟩

theorem Returned.paused {p : ServerState} (h : Returned templateRunId i p) :
    Paused templateRunId p.trace := by
  obtain ⟨-, -, since, pause, earlier, -, htrace, -, hpause, hno⟩ := h
  rw [htrace]
  have hpaused : Paused templateRunId (pause :: earlier) := .inl hpause
  exact hpaused.append hno

theorem Ends.append {resume : Ran} {earlier : List Ran} (h : Ends templateRunId resume earlier) :
    ∀ later : List Ran, Ends templateRunId resume (later ++ earlier)
  | [] => h
  | _ :: later => .inr (h.append later)

/-- Every pause ended before a time. -/
def After (templateRunId : Uuid) (trace : List Ran) (time : Int) : Prop :=
  ∀ resume, Ends templateRunId resume trace → resume.env.now < time

theorem After.mono {trace : List Ran} {time time' : Int} (h : After templateRunId trace time)
    (hle : time ≤ time') : After templateRunId trace time' := by
  intro resume hends
  have := h resume hends
  omega

theorem Ends.mem {resume : Ran} : ∀ {trace : List Ran}, Ends templateRunId resume trace →
    resume ∈ trace
  | _ :: _, .inl ⟨heq, _⟩ => heq ▸ List.mem_cons_self ..
  | _ :: _, .inr h => List.mem_cons_of_mem _ h.mem

/-- A statement that does not end a pause. -/
theorem After.cons {trace : List Ran} {time : Int} {ran : Ran}
    (h : After templateRunId trace time)
    (hran : Resumes templateRunId ran → ¬ Paused templateRunId trace) :
    After templateRunId (ran :: trace) time := by
  rintro resume (⟨rfl, hres, hpaused⟩ | hends)
  · exact absurd hpaused (hran hres)
  · exact h resume hends

theorem not_paused_cons {trace : List Ran} {ran : Ran} (h : ¬ Paused templateRunId trace)
    (hran : ¬ Pauses templateRunId ran) : ¬ Paused templateRunId (ran :: trace) := by
  rintro (hp | ⟨-, hp⟩)
  · exact hran hp
  · exact h hp

/-- At every creation of an instance the template was not paused, and every pause
had ended before the slot. -/
def Timely (templateRunId : Uuid) : List Ran → Prop
  | [] => True
  | ran :: trace =>
      (∀ fireAt, Creates templateRunId fireAt ran →
        ¬ Paused templateRunId trace ∧ After templateRunId trace fireAt) ∧
      Timely templateRunId trace

theorem Timely.split {create : Ran} {earlier : List Ran} :
    ∀ {later : List Ran}, Timely templateRunId (later ++ create :: earlier) → ∀ {fireAt},
      Creates templateRunId fireAt create →
        ¬ Paused templateRunId earlier ∧ After templateRunId earlier fireAt
  | [], h, fireAt, hc => h.1 fireAt hc
  | _ :: _, h, _, hc => Timely.split h.2 hc

/-- A pause is respected where instances are created in time. -/
theorem Timely.respected {later earlier : List Ran} {pausedAt : Int}
    (h : Timely templateRunId (later ++ earlier)) (hpaused : Paused templateRunId earlier) :
    Respected templateRunId pausedAt later := by
  constructor
  · rintro after create before rfl hno fireAt hcreate
    rw [List.append_assoc] at h
    exact (h.split hcreate).1 (hpaused.append hno)
  · rintro after resume before rfl hres hno create hmem fireAt hcreate ⟨-, hlt⟩
    obtain ⟨after₁, after₂, rfl⟩ := List.append_of_mem hmem
    rw [List.append_assoc, List.append_assoc] at h
    have hends : Ends templateRunId resume (resume :: (before ++ earlier)) :=
      .inl ⟨rfl, hres, hpaused.append hno⟩
    have := (h.split hcreate).2 resume (hends.append after₂)
    omega

end History

/-! ## Runs that keep to the pauses -/

/-- What the handlers see to: an instance is created only while the template is
not paused, for a slot after all pauses, and the fire times are moved to such
slots. -/
def Guarded (templateRunId : Uuid) : Condition Stmt Stmt.Result World Env := fun _ _ q m =>
  match q with
  | .createScheduleInstance template fireAt =>
      template = templateRunId →
        ¬ Paused templateRunId m.trace ∧ After templateRunId m.trace fireAt
  | .updateNextFire runId next _ => runId = templateRunId → After templateRunId m.trace next
  | _ => True

/-- The store and the history agree on whether the template is paused, and the
next fire time lies after all pauses. -/
structure Tracked (templateRunId : Uuid) (m : Now) : Prop where
  dated : Dated m
  enabled : ∀ r ∈ m.store.run templateRunId, r.status = .scheduled →
    ¬ Paused templateRunId m.trace ∧ ∀ a ∈ r.availableAt, After templateRunId m.trace a
  timely : Timely templateRunId m.trace

abbrev engine (cfg : Config) (templateRunId : Uuid) : Engine Stmt Stmt.Result World Env :=
  store.restrict (Current cfg templateRunId)

section Tracking
variable {cfg : Config} {templateRunId : Uuid}

theorem Tracked.updated {i : Nat} {e : Env} {m : Now} {workflow r' : RunRow}
    (h : Tracked templateRunId m)
    (ha : (engine cfg templateRunId).admits i e (.updateWorkflow templateRunId workflow) m)
    (hr' : (store.exec e (.updateWorkflow templateRunId workflow) m.store).2.run templateRunId
      = some r') (hs : r'.status = .scheduled) :
    ¬ Paused templateRunId (m.after store i e (.updateWorkflow templateRunId workflow)).trace ∧
      ∀ a ∈ r'.availableAt,
        After templateRunId (m.after store i e (.updateWorkflow templateRunId workflow)).trace a := by
  rw [Moment.after_trace]
  cases hres : (store.exec e (.updateWorkflow templateRunId workflow) m.store).1 with
  | error x =>
      have hnone : edit templateRunId ⟨i, e, .updateWorkflow templateRunId workflow, .error x⟩
          = none := rfl
      have hrun : m.store.run templateRunId = some r' := by
        rw [← hr']
        exact congrArg (fun db => db.run templateRunId) (updateWorkflow_error hres).symm
      obtain ⟨hpaused, hafter⟩ := h.enabled r' hrun hs
      refine ⟨not_paused_cons hpaused ?_, fun a ha' => (hafter a ha').cons ?_⟩
      · rintro ⟨_, hw, -⟩
        cases hnone.symm.trans hw
      · rintro ⟨_, hw, -⟩
        cases hnone.symm.trans hw
  | ok u =>
      have hedit : edit templateRunId ⟨i, e, .updateWorkflow templateRunId workflow, .ok u⟩
          = some workflow := by simp [edit]
      rw [updateWorkflow_ok hres] at hr'
      obtain ⟨r, -, rfl⟩ := Option.map_eq_some_iff.mp hr'
      have henabled : workflow.status ≠ .paused := by
        rw [show workflow.status = .scheduled from hs]
        decide
      have hresumes : Resumes templateRunId
          ⟨i, e, .updateWorkflow templateRunId workflow, .ok u⟩ := ⟨workflow, hedit, henabled⟩
      refine ⟨?_, fun a ha' => ?_⟩
      · rintro (hp | ⟨hno, -⟩)
        · exact hp.not_resumes hresumes
        · exact hno hresumes
      · have hnow : e.now < a := ha.2 rfl henabled a ha'
        rintro resume (⟨rfl, -⟩ | hends)
        · exact hnow
        · exact Int.lt_of_le_of_lt (Int.le_trans (h.dated resume hends.mem) ha.1.1) hnow

theorem not_edit {i : Nat} {e : Env} {q : Stmt} {a : q.Result}
    (hq : ∀ workflow, q ≠ .updateWorkflow templateRunId workflow) :
    edit templateRunId ⟨i, e, q, a⟩ = none := by
  cases h : edit templateRunId ⟨i, e, q, a⟩ with
  | none => rfl
  | some workflow => exact absurd (edit_inv h) (hq workflow)

theorem tracked_invariant :
    Invariant ((engine cfg templateRunId).restrict (Guarded templateRunId))
      (Tracked templateRunId) := by
  intro i e q m hm ha
  refine ⟨dated_invariant store rfl (fun _ _ _ _ h => h.1) i e q m hm.dated ha.1.1, ?_, ?_, hm.timely⟩
  · intro r' hr' hs
    by_cases hq : ∃ workflow, q = .updateWorkflow templateRunId workflow
    · obtain ⟨workflow, rfl⟩ := hq
      exact hm.updated ha.1 hr' hs
    · have hq' : ∀ workflow, q ≠ .updateWorkflow templateRunId workflow :=
        fun workflow heq => hq ⟨workflow, heq⟩
      obtain ⟨r, hr, hold, hmove⟩ := scheduled_origin hq' hr' hs
      obtain ⟨hpaused, hafter⟩ := hm.enabled r hr hold
      have hnone := not_edit (i := i) (e := e) (a := (store.exec e q m.store).1) hq'
      refine ⟨not_paused_cons hpaused ?_, fun a ha' => After.cons ?_ ?_⟩
      · rintro ⟨_, hw, -⟩
        cases hnone.symm.trans hw
      · rcases hmove with hsame | ⟨next, last, rfl, hnext⟩
        · exact hafter a (hsame ▸ ha')
        · obtain rfl := Option.some.inj (hnext.symm.trans ha')
          exact ha.2 rfl
      · rintro ⟨_, hw, -⟩
        cases hnone.symm.trans hw
  · rintro fireAt ⟨runId, hcreation⟩
    obtain rfl := creation_inv hcreation
    exact ha.2 rfl

end Tracking

/-! ## What a tick does -/

section Ticks
variable {cfg : Config} {templateRunId : Uuid}

/-- The slots that a tick fires or moves the template to lie after all pauses. -/
structure Targets (cfg : Config) (templateRunId : Uuid) (now : Int) (t : RunRow) (trace : List Ran) :
    Prop where
  skip : ∀ next, Coordinator.decision cfg now t = .skip next → After templateRunId trace next
  fire : ∀ fireAt next, Coordinator.decision cfg now t = .fire fireAt next →
    After templateRunId trace fireAt ∧ After templateRunId trace next

theorem Targets.cons {now : Int} {t : RunRow} {trace : List Ran} {ran : Ran}
    (h : Targets cfg templateRunId now t trace)
    (hran : Resumes templateRunId ran → ¬ Paused templateRunId trace) :
    Targets cfg templateRunId now t (ran :: trace) where
  skip := fun next hd => (h.skip next hd).cons hran
  fire := fun fireAt next hd => ⟨(h.fire fireAt next hd).1.cons hran, (h.fire fireAt next hd).2.cons hran⟩

/-- What a tick knows of a template: it is not paused as long as it was not paused
since the read, and its decision stays good until the template was paused and
resumed. -/
structure Snapshot (cfg : Config) (templateRunId : Uuid) (i : Nat) (now : Int) (t : RunRow)
    (trace : List Ran) : Prop where
  enabled : (∀ ran ∈ sinceRead i trace, ¬ Pauses templateRunId ran) →
    ¬ Paused templateRunId trace ∧ Targets cfg templateRunId now t trace
  targets : (∀ ran ∈ sinceRead i trace, ¬ Resumes templateRunId ran) →
    Targets cfg templateRunId now t trace

theorem sinceRead_cons {i : Nat} {ran : Ran} {trace : List Ran}
    (h : ran.caller = i → ran.query.isRead = false) :
    sinceRead i (ran :: trace) = ran :: sinceRead i trace := by
  unfold sinceRead
  rw [List.takeWhile_cons_of_pos]
  by_cases hi : ran.caller = i
  · simp [h hi]
  · simp [hi]

theorem Snapshot.cons {i : Nat} {now : Int} {t : RunRow} {trace : List Ran} {ran : Ran}
    (h : Snapshot cfg templateRunId i now t trace)
    (hread : ran.caller = i → ran.query.isRead = false) :
    Snapshot cfg templateRunId i now t (ran :: trace) := by
  constructor
  · rw [sinceRead_cons hread]
    intro hno
    obtain ⟨hpaused, htargets⟩ := h.enabled fun ran hran => hno ran (List.mem_cons_of_mem _ hran)
    exact ⟨not_paused_cons hpaused (hno ran (List.mem_cons_self ..)), htargets.cons fun _ => hpaused⟩
  · rw [sinceRead_cons hread]
    intro hno
    have htargets := h.targets fun ran hran => hno ran (List.mem_cons_of_mem _ hran)
    exact htargets.cons fun hres => absurd hres (hno ran (List.mem_cons_self ..))

/-- What is decided about a template that is due leads to slots after all pauses,
where enough occurrences follow the last one. -/
theorem targets_of_due {now a : Int} {t : RunRow} {trace : List Ran}
    (havailable : t.availableAt = some a) (hdue : a ≤ now) (hafter : After templateRunId trace a)
    (hcount : ∀ expr ∈ t.cronExpr, ∀ cron, cfg.cronSchedule expr = .ok cron →
      ∀ resume, Ends templateRunId resume trace →
        Coordinator.missedCount cron (Coordinator.cursor t a) now ≤ asUsize t.maxCatchup ∨
          asUsize t.maxCatchup ≤ Coordinator.missedCount cron resume.env.now now) :
    Targets cfg templateRunId now t trace := by
  constructor
  · intro next hd
    obtain ⟨a', cron, ha', expr, hexpr, hcron⟩ := columns_of_decision hd nofun nofun
    obtain rfl := Option.some.inj (havailable.symm.trans ha')
    rw [decision_eq havailable ⟨expr, hexpr, hcron⟩] at hd
    split at hd
    next =>
      obtain rfl := Coordinator.Decision.skip.inj hd
      have := lt_nextOrYear cron (Int.le_refl now)
      exact hafter.mono (by omega)
    next =>
      split at hd
      next htoo =>
        obtain rfl := Coordinator.Decision.skip.inj hd
        rcases Nat.eq_zero_or_pos (asUsize t.maxCatchup) with hzero | hpos
        · rw [hzero, Nat.sub_zero]
          cases hnth : cron.nth (Coordinator.cursor t a)
              (Coordinator.missedCount cron (Coordinator.cursor t a) now) with
          | none => exact hafter.mono hdue
          | some o =>
              have := Recurrence.lt_of_nth_length hnth
              rw [Option.getD_some]
              exact hafter.mono (by omega)
        · intro resume hends
          have hk : Coordinator.missedCount cron (Coordinator.cursor t a) now - asUsize t.maxCatchup
              < (cron.occurrences (Coordinator.cursor t a) now).length := by
            change _ < Coordinator.missedCount cron (Coordinator.cursor t a) now
            omega
          rw [Recurrence.nth_eq_getElem hk, List.getElem?_eq_getElem hk, Option.getD_some]
          refine Recurrence.lt_getElem_of_length hk ?_
          have := hcount expr hexpr cron hcron resume hends
          unfold Coordinator.missedCount at this htoo ⊢
          omega
      next => cases hd
  · intro fireAt next hd
    obtain ⟨a', cron, ha', expr, hexpr, hcron⟩ := columns_of_decision hd nofun nofun
    obtain rfl := Option.some.inj (havailable.symm.trans ha')
    rw [decision_eq havailable ⟨expr, hexpr, hcron⟩] at hd
    split at hd
    next => cases hd
    next =>
      split at hd
      next => cases hd
      next =>
        obtain ⟨rfl, rfl⟩ := Coordinator.Decision.fire.inj hd
        exact ⟨hafter, hafter.mono (Int.le_of_lt (lt_nextOrYear cron hdue))⟩

theorem coordinatorRule (i : Nat) :
    CoordinatorRule cfg (engine cfg templateRunId) (Guarded templateRunId) i
      (Tracked templateRunId)
      (fun now t m => t.runId = templateRunId →
        Snapshot cfg templateRunId i now t.toRunRow m.trace)
      (fun _ _ _ => True) (fun _ _ _ => True) where
  inv := tracked_invariant
  snap_steady := fun _ _ _ _ _ _ hj hm _ _ hid => (hm hid).cons hj
  made_steady := fun _ _ => steady_true
  done_inv := fun _ _ _ _ _ _ _ _ => trivial
  plain := by
    intro e q m hq _ _
    cases q <;> trivial
  read := by
    intro e m now limit ts hK ha hres t ht hid
    obtain ⟨hrun, hs, hdue, -⟩ := mem_findDueSchedules hres ht
    rw [hid] at hrun
    obtain ⟨hpaused, hafter⟩ := hK.enabled _ hrun hs
    have hno : ∀ {ran : Ran}, edit templateRunId ran = none → ¬ Resumes templateRunId ran := by
      rintro ran hnone ⟨_, hw, -⟩
      cases hnone.symm.trans hw
    cases havailable : t.availableAt with
    | none => simp [RunRow.due, havailable] at hdue
    | some a =>
        have hdue' : a ≤ now := by simpa [RunRow.due, havailable] using hdue
        have htargets : Targets cfg templateRunId now t.toRunRow m.trace :=
          targets_of_due havailable hdue' (hafter a havailable) (ha.2 _ hrun a havailable)
        rw [Moment.after_trace]
        refine ⟨fun _ => ⟨not_paused_cons hpaused ?_, htargets.cons fun _ => hpaused⟩,
          fun _ => htargets.cons fun _ => hpaused⟩
        rintro ⟨_, hw, -⟩
        cases edit_inv hw
  skip := by
    intro e m now t next hd _ hsnap ha hid
    rcases ha.2 hid with hno | hno
    · exact ((hsnap hid).enabled hno).2.skip next hd
    · exact ((hsnap hid).targets hno).skip next hd
  create := by
    intro e m now t fireAt next hd _ hsnap ha hid
    obtain ⟨hpaused, htargets⟩ := (hsnap hid).enabled (ha.2 hid)
    exact ⟨hpaused, (htargets.fire fireAt next hd).1⟩
  made := fun _ _ _ _ _ _ _ _ _ _ _ _ => trivial
  advance := by
    intro e m now t fireAt next hd _ hsnap _ ha hid
    rcases ha.2 hid with hno | hno
    · exact (((hsnap hid).enabled hno).2.fire fireAt next hd).2
    · exact (((hsnap hid).targets hno).fire fireAt next hd).2

theorem serves :
    Serves ((service cfg).restrict (Current cfg templateRunId)) (Guarded templateRunId)
      (Tracked templateRunId) (Reported fun _ _ _ => True) (fun _ _ _ _ => True) := by
  refine serves_of_rule rfl (fun req _ hco q hq i e m _ _ => ?_) coordinatorRule
  cases q with
  | createScheduleInstance template fireAt =>
      obtain ⟨ticks, rfl⟩ := hq
      exact absurd rfl (hco ticks)
  | updateNextFire runId next last =>
      obtain ⟨ticks, rfl⟩ := hq
      exact absurd rfl (hco ticks)
  | _ => trivial

end Ticks

/-- A pause is respected where ticks act on what still holds, resuming is quick and
the occurrences since the pause are enough to catch up on. -/
theorem pause_respected_if_current (cfg : Config) : PauseRespected cfg (Current cfg) := by
  intro templateRunId w p p' i later h h' hreturned htrace
  have hstart : Tracked templateRunId ⟨w, []⟩ := by
    refine ⟨fun ran hran => ?_, fun r _ _ => ⟨id, fun a _ resume hends => hends.elim⟩, trivial⟩
    cases hran
  obtain ⟨hrun, -⟩ := (h.trans h').sound serves tracked_invariant hstart (sound_nil w)
  have htimely := (hrun.invariant tracked_invariant hstart).timely
  rw [htrace] at htimely
  exact htimely.respected hreturned.paused

/-! ## A pause that is respected -/

/-- A `PauseWorkflowSchedule` of which the last statement is the update, and which has
returned. -/
theorem returned_of_wrote {templateRunId : Uuid} {i : Nat} {p : ServerState} {req : ScheduleRequest}
    (hresult : (p.returned i).map Prod.fst = some (.pauseWorkflowSchedule req))
    (hwrote : p.trace.head?.map (fun ran => (ran.caller, (edit templateRunId ran).map RunRow.status))
      = some (i, some .paused)) : Returned templateRunId i p := by
  obtain ⟨⟨_, resp⟩, hresp, rfl⟩ := Option.map_eq_some_iff.mp hresult
  obtain ⟨pause, hhead, hpause⟩ := Option.map_eq_some_iff.mp hwrote
  obtain ⟨hcaller, hedit⟩ := Prod.mk.inj hpause
  obtain ⟨earlier, htrace⟩ := List.head?_eq_some_iff.mp hhead
  refine ⟨_, resp, [], pause, earlier, hresp, htrace, hcaller, ?_, fun ran hran => by cases hran⟩
  exact Option.map_eq_some_iff.mp hedit

/-- A schedule is paused before its first occurrence. -/
def pausedInTime : ServerState :=
  fireAll ((service .sample).restrict (Current .sample 1)) (.init (tenSecondsWorld 50) []) <|
    [.start (.pauseWorkflowSchedule ⟨"ns", "1"⟩)] ++ runs 0 2 (.quiet 5 2)

/-- A tick comes after the first occurrence, then the schedule is resumed, and another
tick comes after the second. -/
def resumedInTime : ServerState :=
  fireAll ((service .sample).restrict (Current .sample 1)) pausedInTime <|
    [.start (.coordinator 1)] ++ runs 1 3 (.quiet 12 3) ++
      [.start (.resumeWorkflowSchedule ⟨"ns", "1"⟩)] ++ runs 2 3 (.quiet 13 4) ++
      [.start (.coordinator 1)] ++ runs 3 7 (.quiet 21 5)

/-- The second occurrence has an instance, and the pause is respected. -/
theorem pause_respected_if_current_resumedInTime :
    Fired 1 (seconds 20) resumedInTime.trace ∧
      ∃ later, resumedInTime.trace = later ++ pausedInTime.trace ∧
        Respected 1 pausedInTime.store.now later := by
  have h : Steps ((service .sample).restrict (Current .sample 1)) (.init (tenSecondsWorld 50) [])
      pausedInTime := AllEnabled.steps (by decide +kernel)
  have h' : Steps ((service .sample).restrict (Current .sample 1)) pausedInTime resumedInTime :=
    AllEnabled.steps (by decide +kernel)
  have hreturned : Returned 1 0 pausedInTime :=
    returned_of_wrote (by decide +kernel : (pausedInTime.returned 0).map Prod.fst
      = some (.pauseWorkflowSchedule ⟨"ns", "1"⟩)) (by decide +kernel)
  obtain ⟨later, htrace⟩ := h'.exists_later
  exact ⟨by decide +kernel, later, htrace,
    pause_respected_if_current .sample 1 _ _ _ 0 later h h' hreturned htrace⟩

/-! ## An instance of a paused schedule -/

/-- A tick reads a template that is due, and before it creates the instance the
schedule is paused. -/
def pauseMeanwhile : List (Action Env Request) :=
  [.start (.coordinator 1)] ++ runs 0 3 (.quiet 10 2) ++
    [.start (.pauseWorkflowSchedule ⟨"ns", "1"⟩)] ++ runs 1 2 (.quiet 11 3)

/-- The tick creates the instance. -/
theorem pause_not_respected : ¬ PauseRespected .sample fun _ _ _ _ _ => True := by
  intro hrespected
  let S := (service .sample).restrict fun _ _ _ _ => True
  let p := fireAll S (.init (tenSecondsWorld 50) []) pauseMeanwhile
  let p' := fireAll S p (runs 0 1 (.quiet 12 4))
  have h : Steps S (.init (tenSecondsWorld 50) []) p := AllEnabled.steps (by decide +kernel)
  have h' : Steps S p p' := AllEnabled.steps (by decide +kernel)
  have hreturned : Returned 1 1 p :=
    returned_of_wrote (by decide +kernel : (p.returned 1).map Prod.fst
      = some (.pauseWorkflowSchedule ⟨"ns", "1"⟩)) (by decide +kernel)
  obtain ⟨later, htrace⟩ := h'.exists_later
  have hone : later.length = 1 := by
    have hlen : p'.trace.length = p.trace.length + 1 := by decide +kernel
    rw [htrace, List.length_append] at hlen
    omega
  obtain ⟨create, rfl⟩ := List.length_eq_one_iff.mp hone
  have hcreated : p'.trace.head?.bind creation = some (1, seconds 10, some 4) := by decide +kernel
  rw [htrace] at hcreated
  exact (hrespected 1 _ p p' 1 _ h h' hreturned htrace).none_while [] create [] rfl
    (fun ran hran => by cases hran) (seconds 10) ⟨4, hcreated⟩

end Pause

end Kagzi
