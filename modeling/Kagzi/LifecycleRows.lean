import Kagzi.FrozenHistory

/-!
# The events of a run and the steps of its worker

Both kinds of attempts are rows of one table with one key, the run and the step id.
`record_lifecycle_event` takes the ids that begin with `__lifecycle:`, and `begin_step`
checks the kind of a step but not its name: a worker may name a step like an event.
Then a step is never executed, because the event is taken for its output, or an event
overwrites an attempt of the worker.

The two kinds of attempts are kept apart, whatever the requests, exactly if no worker uses
one of the four ids (`kept_apart_iff`).
-/

namespace Kagzi

open Atomic Relational

namespace LifecycleRows

/-- The step ids of the events. -/
def eventIds : List String :=
  [StepKind.workflowStarted, .workflowCompleted, .workflowFailed, .workflowCancelled].map
    StepRepository.lifecycleStepId

end LifecycleRows

/-- The step that a worker names in a `BeginStep`, a `CompleteStep` or a `FailStep`. -/
def Request.stepName : Request → Option String
  | .beginStep req => some req.stepName
  | .completeStep req => some req.stepId
  | .failStep req => some req.stepId
  | _ => none

/-- The statement is one of `record_lifecycle_event` that writes. -/
def Stmt.recordsEvent : Stmt → Bool
  | .recordLatestStep _ _ _ _ _ => true
  | .supersede step => !step.stepKind.isWorkers
  | .insertStep step => !step.stepKind.isWorkers
  | _ => false

namespace LifecycleRows

/-- The worker may use the name. -/
def Named (names : String → Prop) (req : Request) : Prop := ∀ name ∈ req.stepName, names name

instance (names : String → Prop) [DecidablePred names] : DecidablePred (Named names) :=
  fun req => inferInstanceAs (Decidable (∀ name ∈ req.stepName, names name))

/-- The server, when workers use only such names. -/
abbrev service (cfg : Config) (names : String → Prop) :
    Service Stmt Stmt.Result World Env Request Status Response :=
  server cfg (Named names)

/-- The same attempts of the kind are there. -/
def SameRows (kind : StepRow → Bool) (before after : World) : Prop :=
  ∀ s, kind s = true → (s ∈ before.db.steps.rows ↔ s ∈ after.db.steps.rows)

/-- An attempt that a worker has created. -/
def workers (s : StepRow) : Bool := s.stepKind.isWorkers

/-- An attempt that records an event. -/
def events (s : StepRow) : Bool := !s.stepKind.isWorkers

/-- The insertion of a running attempt, which `begin_step` hands out to be executed. -/
def begins (runId : Uuid) (stepId : String) : Ran → Bool
  | ⟨_, _, .supersede step, .ok true⟩ =>
      step.runId = runId && step.stepId = stepId && step.status = .running
  | ⟨_, _, .insertStep step, .ok _⟩ =>
      step.runId = runId && step.stepId = stepId && step.status = .running
  | _ => false

/-- What a `BeginStep` answers for a step that is not to be executed: the output of a
worker's attempt, which is completed, and the step has been handed out before. -/
structure Cached (w : World) (p : ServerState) (i : Nat) (runId : Uuid) (stepId : String)
    (output : Payload) : Prop where
  read : ∃ later ran earlier, p.trace = later ++ ran :: earlier ∧ ran.caller = i ∧
    ∃ s, (store.replay w earlier).db.latest runId stepId = some s ∧ workers s = true ∧
      s.status = .completed ∧ bytesToPayload s.output = output
  executed : ∃ ran ∈ p.trace, begins runId stepId ran = true

/-- Events and steps do not meet. -/
structure Separate (cfg : Config) (w : World) (p : ServerState) : Prop where
  worker : ∀ later ran earlier, p.trace = later ++ ran :: earlier →
    ∀ req c, p.calls[ran.caller]? = some (req, c) → req.stepName.isSome = true →
      SameRows events (store.replay w earlier) (store.replay w (ran :: earlier))
  event : ∀ later ran earlier, p.trace = later ++ ran :: earlier → ran.query.recordsEvent = true →
    SameRows workers (store.replay w earlier) (store.replay w (ran :: earlier))
  cached : ∀ i req stepId output,
    p.calls[i]? = some (.beginStep req, .ret (.beginStep stepId false output)) →
      ∀ runId, cfg.parseUuid req.runId = some runId → Cached w p i runId req.stepName output

/-- Events and steps do not meet in any run. -/
def KeptApart (cfg : Config) (names : String → Prop) : Prop :=
  ∀ (w : World) (p : ServerState), w.db.steps.rows = [] →
    Steps (service cfg names) (.init w []) p → Separate cfg w p

/-! ## What is inserted and updated -/

/-- The step whose attempt the `UPDATE` of a worker's statement sets. -/
def marked : Stmt → Option String
  | .completeRunningStep _ stepId _ => some stepId
  | .failRunningStep _ stepId _ => some stepId
  | .failLatestStep _ stepId _ => some stepId
  | _ => none

/-- The step whose attempt the `UPDATE` of an event sets. -/
def recorded : Stmt → Option String
  | .recordLatestStep _ stepId _ _ _ => some stepId
  | _ => none

/-- The attempt has the kind that goes with its step id. -/
def Fits (kind : StepKind) (stepId : String) : Prop := kind.isWorkers = true ↔ stepId ∉ eventIds

/-- The step has been handed out. -/
def Begun (runId : Uuid) (stepId : String) (m : Now) : Prop :=
  ∃ ran ∈ m.trace, begins runId stepId ran = true

/-- Every statement keeps to the step ids of its kind, and a worker's attempt that is not
running is inserted for a step that has been handed out. -/
structure Tidy (q : Stmt) (m : Now) : Prop where
  fits : ∀ step, q.inserted = some step → Fits step.stepKind step.stepId
  begun : ∀ step, q.inserted = some step → step.stepKind.isWorkers = true →
    step.status = .running ∨ Begun step.runId step.stepId m
  marked : ∀ stepId, marked q = some stepId → stepId ∉ eventIds
  recorded : ∀ stepId, recorded q = some stepId → stepId ∈ eventIds

/-- The statements of all callers are tidy. -/
abbrev tidy : Condition Stmt Stmt.Result World Env := fun _ _ q m => Tidy q m

/-- The attempts have the kinds that go with their step ids, and those of workers belong
to steps that have been handed out. -/
def Sorted (m : Now) : Prop :=
  ∀ s ∈ m.store.db.steps.rows, Fits s.stepKind s.stepId ∧
    (s.stepKind.isWorkers = true → Begun s.runId s.stepId m)

section OneStatement
variable {e : Env} {q : Stmt} {m : Now} {s : StepRow} {i : Nat}
  {M : Engine Stmt Stmt.Result World Env}

theorem Begun.after {runId : Uuid} {stepId : String} (h : Begun runId stepId m) :
    Begun runId stepId (m.after M i e q) := by
  obtain ⟨ran, hran, hbegins⟩ := h
  exact ⟨ran, List.mem_cons_of_mem _ hran, hbegins⟩

theorem begun_invariant {runId : Uuid} {stepId : String} : Invariant M (Begun runId stepId) :=
  fun _ _ _ _ h _ => h.after

/-- Which attempts an update hits. -/
theorem hit_cases {p : StepRow → Bool} {f : StepRow → StepRow} (h : q.stepUpdate e = some (p, f))
    (hp : p s = true) : (∃ step, q.inserted = some step ∧ s.stepId = step.stepId) ∨
      marked q = some s.stepId ∨ recorded q = some s.stepId ∨
        s.stepKind = .sleep ∧ q.recordsEvent = false := by
  cases q with
  | supersede step => cases h; exact .inl ⟨step, rfl, (isLatestOf_iff.mp hp).2.1⟩
  | completeRunningStep _ stepId _ =>
      cases h
      exact .inr (.inl (congrArg some (isLatestOf_iff.mp (isRunningOf_iff.mp hp).1).2.1.symm))
  | failRunningStep _ stepId _ =>
      cases h
      exact .inr (.inl (congrArg some (isLatestOf_iff.mp (isRunningOf_iff.mp hp).1).2.1.symm))
  | failLatestStep _ stepId _ =>
      cases h
      exact .inr (.inl (congrArg some (isLatestOf_iff.mp hp).2.1.symm))
  | recordLatestStep _ stepId _ _ _ =>
      cases h
      exact .inr (.inr (.inl (congrArg some (isLatestOf_iff.mp hp).2.1.symm)))
  | completePendingSleeps _ =>
      cases h
      simp only [Bool.and_eq_true, decide_eq_true_eq] at hp
      exact .inr (.inr (.inr ⟨hp.1.1.2, rfl⟩))
  | _ => cases h

/-- An insertion of a running attempt that changes the table hands the step out. -/
theorem begins_of_inserted {step : NewStep} (hq : q.inserted = some step) (hs : step.status = .running)
    (hchanged : (store.exec e q m.store).2.db ≠ m.store.db) :
    begins step.runId step.stepId ⟨i, e, q, (store.exec e q m.store).1⟩ = true := by
  have hexec : q.exec e m.store.db = q.sql e m.store.db := by
    rcases q.exec_cases e m.store.db with hx | hx
    · exact absurd (congrArg Prod.snd hx) hchanged
    · exact hx
  have hne : (q.sql e m.store.db).2 ≠ m.store.db := by
    rw [← hexec]
    exact hchanged
  rw [store_exec_fst, hexec]
  cases q with
  | supersede step' =>
      obtain rfl := Option.some.inj hq
      have hok : (supersede step' e m.store.db).1 = .ok true := by
        by_contra hmiss
        exact hne (supersede_miss hmiss)
      show begins _ _ ⟨i, e, .supersede step', (supersede step' e m.store.db).1⟩ = true
      rw [hok]
      simp [begins, hs]
  | insertStep step' =>
      obtain rfl := Option.some.inj hq
      have hok : (insertStep step' e m.store.db).1 = .ok () := by
        by_contra hmiss
        exact hne (insertStep_miss hmiss)
      show begins _ _ ⟨i, e, .insertStep step', (insertStep step' e m.store.db).1⟩ = true
      rw [hok]
      simp [begins, hs]
  | _ => cases hq

/-- A tidy statement keeps the attempts sorted. -/
theorem Sorted.after (h : Sorted m) (hq : Tidy q m) : Sorted (m.after store i e q) := by
  intro s hs
  by_cases hchanged : (store.exec e q m.store).2.db = m.store.db
  · have hold : s ∈ m.store.db.steps.rows := by
      rw [← hchanged]
      exact hs
    exact ⟨(h s hold).1, fun hw => ((h s hold).2 hw).after⟩
  · cases Stmt.exec_attempt hs with
    | kept hold => exact ⟨(h s hold).1, fun hw => ((h s hold).2 hw).after⟩
    | @updated s₀ p f hold hu hp =>
        have hsame := Stmt.stepUpdate_keeps hu s₀
        rw [hsame.stepKind, hsame.runId, hsame.stepId]
        exact ⟨(h s₀ hold).1, fun hw => ((h s₀ hold).2 hw).after⟩
    | @inserted step _ _ hins =>
        refine ⟨hq.fits step hins, fun hw => ?_⟩
        rcases hq.begun step hins hw with hrunning | hbegun
        · exact ⟨_, List.mem_cons_self .., begins_of_inserted hins hrunning hchanged⟩
        · exact hbegun.after

theorem sorted_invariant : Invariant (store.restrict tidy) Sorted :=
  fun _ _ _ _ h ha => h.after ha.2

/-- A statement keeps the attempts of a kind that it neither hits nor inserts. -/
theorem sameRows_of_miss {kind : StepRow → Bool} {w : World}
    (hkind : ∀ s s' : StepRow, s.stepKind = s'.stepKind → kind s = kind s')
    (hmiss : ∀ p f, q.stepUpdate e = some (p, f) → ∀ s ∈ w.db.steps.rows, kind s = true → p s = false)
    (hins : ∀ step ns n, q.inserted = some step → kind (step.row ns n e.began) = false) :
    SameRows kind w (store.exec e q w).2 := by
  intro s hs
  constructor
  · exact fun hold => Stmt.exec_kept hold fun p f hu => hmiss p f hu s hold hs
  · intro hnew
    cases Stmt.exec_attempt hnew with
    | kept hold => exact hold
    | @updated s₀ p f hold hu hp =>
        rw [hkind _ s₀ (Stmt.stepUpdate_keeps hu s₀).stepKind] at hs
        rw [hmiss p f hu s₀ hold hs] at hp
        cases hp
    | inserted hq =>
        rw [hins _ _ _ hq] at hs
        cases hs

/-- A statement that records no event keeps the events. -/
theorem sameRows_events (h : Sorted m) (hq : Tidy q m) (hrec : q.recordsEvent = false) :
    SameRows events m.store (store.exec e q m.store).2 := by
  have hworker : ∀ step, q.inserted = some step → step.stepKind.isWorkers = true := fun step hins => by
    cases q with
    | supersede _ => cases hins; simpa [Stmt.recordsEvent] using hrec
    | insertStep _ => cases hins; simpa [Stmt.recordsEvent] using hrec
    | _ => cases hins
  refine sameRows_of_miss (fun s s' hk => by simp only [events, hk]) (fun p f hu s hs hevent => ?_)
    fun step ns n hins => by simp only [events, NewStep.row, hworker step hins, Bool.not_true]
  have hid : s.stepId ∈ eventIds := by
    by_contra hout
    have hw := (h s hs).1.mpr hout
    simp [events, hw] at hevent
  by_contra hp
  rcases hit_cases hu (Bool.eq_true_of_not_eq_false hp) with ⟨step, hins, heq⟩ | hm | hr | ⟨hsleep, -⟩
  · exact (hq.fits step hins).mp (hworker step hins) (heq ▸ hid)
  · exact hq.marked _ hm hid
  · cases q with
    | recordLatestStep _ _ _ _ _ => cases hrec
    | _ => cases hr
  · rw [events, hsleep] at hevent
    cases hevent

/-- A statement that records an event keeps the attempts of workers. -/
theorem sameRows_workers (h : Sorted m) (hq : Tidy q m) (hrec : q.recordsEvent = true) :
    SameRows workers m.store (store.exec e q m.store).2 := by
  have hevent : ∀ step, q.inserted = some step → step.stepKind.isWorkers = false := fun step hins => by
    cases q with
    | supersede _ => cases hins; simpa [Stmt.recordsEvent] using hrec
    | insertStep _ => cases hins; simpa [Stmt.recordsEvent] using hrec
    | _ => cases hins
  refine sameRows_of_miss (fun s s' hk => by simp only [workers, hk]) (fun p f hu s hs hworker => ?_)
    fun step ns n hins => hevent step hins
  have hid : s.stepId ∉ eventIds := (h s hs).1.mp hworker
  by_contra hp
  rcases hit_cases hu (Bool.eq_true_of_not_eq_false hp) with ⟨step, hins, heq⟩ | hm | hr | ⟨-, hno⟩
  · have hw := (hq.fits step hins).mpr (heq ▸ hid)
    rw [hevent step hins] at hw
    cases hw
  · cases q with
    | recordLatestStep _ _ _ _ _ => cases hm
    | supersede _ => cases hm
    | insertStep _ => cases hm
    | _ => cases hrec
  · exact hid (hq.recorded _ hr)
  · rw [hrec] at hno
    cases hno

end OneStatement

/-! ## The handlers -/

section Judgements
variable {cfg : Config} {i : Nat} {runId : Uuid} {stepId : String}

/-- The statement writes no step, or records an event under its id. -/
structure Eventful (q : Stmt) : Prop where
  inserted : ∀ step, q.inserted = some step → step.stepKind.isWorkers = false ∧ step.stepId ∈ eventIds
  marked : marked q = none
  recorded : ∀ stepId, recorded q = some stepId → stepId ∈ eventIds

/-- The statement writes no step, or an attempt of a worker's step. -/
structure Local (runId : Uuid) (stepId : String) (q : Stmt) : Prop where
  inserted : ∀ step, q.inserted = some step →
    step.stepKind.isWorkers = true ∧ step.runId = runId ∧ step.stepId = stepId
  marked : ∀ stepId', marked q = some stepId' → stepId' = stepId
  recorded : recorded q = none

/-- The statement writes no step. -/
def Idle (q : Stmt) : Prop := q.inserted = none ∧ marked q = none ∧ recorded q = none

theorem Idle.eventful {q : Stmt} (h : Idle q) : Eventful q :=
  ⟨fun _ hs => by simp [h.1] at hs, h.2.1, fun _ hs => by simp [h.2.2] at hs⟩

theorem Idle.isLocal {q : Stmt} (h : Idle q) : Local runId stepId q :=
  ⟨fun _ hs => by simp [h.1] at hs, fun _ hs => by simp [h.2.1] at hs, h.2.2⟩

theorem idle_of_readsSteps {q : Stmt} (h : q.readsSteps = true) : Idle q := by
  cases q with
  | latestStep _ _ => exact ⟨rfl, rfl, rfl⟩
  | latestStepKind _ _ => exact ⟨rfl, rfl, rfl⟩
  | getRetryInfo _ _ => exact ⟨rfl, rfl, rfl⟩
  | listSteps _ _ _ _ => exact ⟨rfl, rfl, rfl⟩
  | newUuid => exact ⟨rfl, rfl, rfl⟩
  | random => exact ⟨rfl, rfl, rfl⟩
  | _ => cases h

theorem Eventful.tidy {q : Stmt} {m : Now} (h : Eventful q) : Tidy q m where
  fits := fun step hs => by
    obtain ⟨hkind, hid⟩ := h.inserted step hs
    exact iff_of_false (by simp [hkind]) fun hout => hout hid
  begun := fun step hs hw => by
    rw [(h.inserted step hs).1] at hw
    cases hw
  marked := fun _ hs => by
    rw [h.marked] at hs
    cases hs
  recorded := h.recorded

theorem Local.tidy {q : Stmt} {m : Now} (h : Local runId stepId q) (hout : stepId ∉ eventIds)
    (hbegun : ∀ step, q.inserted = some step → step.status = .running ∨ Begun runId stepId m) :
    Tidy q m where
  fits := fun step hs => by
    obtain ⟨hkind, -, hid⟩ := h.inserted step hs
    exact iff_of_true hkind (hid ▸ hout)
  begun := fun step hs _ => by
    obtain ⟨-, hrun, hid⟩ := h.inserted step hs
    rw [hrun, hid]
    exact hbegun step hs
  marked := fun _ hs => h.marked _ hs ▸ hout
  recorded := fun _ hs => by
    rw [h.recorded] at hs
    cases hs

/-! ### Requests that record events -/

theorem lifecycleStepId_mem {kind : StepKind} (h : kind.isWorkers = false) :
    StepRepository.lifecycleStepId kind ∈ eventIds := by
  cases kind with
  | function => cases h
  | sleep => cases h
  | workflowStarted => exact List.mem_cons_self ..
  | workflowCompleted => exact List.mem_cons_of_mem _ (List.mem_cons_self ..)
  | workflowFailed => exact List.mem_cons_of_mem _ (List.mem_cons_of_mem _ (List.mem_cons_self ..))
  | workflowCancelled =>
      exact List.mem_cons_of_mem _ (List.mem_cons_of_mem _ (List.mem_cons_of_mem _ (List.mem_cons_self ..)))

theorem eventful_record {status : StepStatus} {output : Option Bytes} {error : Option String}
    (h : stepId ∈ eventIds) : Eventful (.recordLatestStep runId stepId status output error) where
  inserted := fun _ hs => by cases hs
  marked := rfl
  recorded := fun stepId' hs => by
    obtain rfl := Option.some.inj hs
    exact h

theorem eventful_insert {step : NewStep} (h : step.stepKind.isWorkers = false ∧ step.stepId ∈ eventIds) :
    AllowsInsert Eventful step := by
  have hstep : ∀ step', some step = some step' →
      step'.stepKind.isWorkers = false ∧ step'.stepId ∈ eventIds := fun step' hs => by
    obtain rfl := Option.some.inj hs
    exact h
  exact ⟨⟨hstep, rfl, fun _ hs => by cases hs⟩, hstep, rfl, fun _ hs => by cases hs⟩

theorem record_eventful {kind : StepKind} (h : kind.isWorkers = false) (output : Option Bytes) :
    (StepRepository.recordLifecycleEvent cfg.payloadMaxSizeBytes cfg.utf8 runId kind output).Uses
      Eventful := by
  have hinsert : ∀ step : NewStep, step.stepId = StepRepository.lifecycleStepId kind →
      step.stepKind = kind → step.stepKind.isWorkers = false ∧ step.stepId ∈ eventIds :=
    fun step hid hkind => by
      rw [hid, hkind]
      exact ⟨h, lifecycleStepId_mem h⟩
  refine recordLifecycleEvent_uses (fun hq => (idle_of_readsSteps hq).eventful) _ _ _
    (fun _ _ _ _ => eventful_record (lifecycleStepId_mem h)) fun step _ hid hkind => ?_
  exact eventful_insert (hinsert step hid hkind)

theorem dispatch_eventful (item : ClaimedWorkflow) : (WorkerService.dispatch cfg item).Uses Eventful := by
  refine Prog.Uses.bind (uses_sql (Idle.eventful ⟨rfl, rfl, rfl⟩)).attempt fun _ => ?_
  exact Prog.Uses.bind (record_eventful rfl _).attempt fun _ => trivial

theorem pollLoop_eventful (req : PollTaskRequest) (types : List String) (n : Nat) :
    (WorkerService.pollLoop cfg req types n).Uses Eventful := by
  induction n with
  | zero =>
      refine Prog.Uses.bind (uses_stmt (Idle.eventful ⟨rfl, rfl, rfl⟩)) fun found => ?_
      cases found with
      | some item => exact dispatch_eventful item
      | none => trivial
  | succ n ih =>
      refine Prog.Uses.bind (uses_stmt (Idle.eventful ⟨rfl, rfl, rfl⟩)) fun found => ?_
      cases found with
      | some item => exact dispatch_eventful item
      | none => exact ih

theorem pollTask_eventful (req : PollTaskRequest) (waits : Nat) :
    (WorkerService.pollTask cfg req waits).Uses Eventful := by
  refine uses_uuid_bind fun workerId _ => ?_
  split
  next => trivial
  next =>
    refine uses_requireNonEmpty_bind ((uses_stmt (Idle.eventful ⟨rfl, rfl, rfl⟩)).bind fun found => ?_)
    refine (uses_orFail _ _).bind fun worker => ?_
    split
    next => trivial
    next =>
      split
      next => trivial
      next =>
        split
        next => trivial
        next =>
          dsimp only
          split
          next => trivial
          next => exact pollLoop_eventful req _ waits

theorem validate_idle {allowed : Stmt → Prop} (h : ∀ q, Idle q → allowed q) :
    (WorkerService.validateWorkflowAction cfg runId).Uses allowed := by
  refine (uses_stmt (h _ ⟨rfl, rfl, rfl⟩)).bind fun found => (uses_orFail _ _).bind fun ns => ?_
  refine (uses_stmt (h _ ⟨rfl, rfl, rfl⟩)).bind fun check => ?_
  split
  next => trivial
  next =>
    split
    next => split <;> trivial
    next => trivial

theorem cancelWorkflow_eventful (req : CancelWorkflowRequest) :
    (WorkflowService.cancelWorkflow cfg req).Uses Eventful := by
  refine uses_uuid_bind fun runId _ => uses_requireNonEmpty_bind ?_
  have hcancel : (WorkflowRepository.cancel runId req.ns).Uses Eventful := by
    refine (uses_sql (Idle.eventful ⟨rfl, rfl, rfl⟩)).bind fun hit => ?_
    cases hit with
    | true => trivial
    | false => exact uses_sql (Idle.eventful ⟨rfl, rfl, rfl⟩)
  refine (uses_call hcancel).bind fun cancelled => ?_
  cases cancelled with
  | true => exact Prog.Uses.bind (record_eventful rfl _).attempt fun _ => trivial
  | false =>
      refine (uses_stmt (Idle.eventful ⟨rfl, rfl, rfl⟩)).bind fun found => ?_
      split <;> trivial

theorem completeWorkflow_eventful (req : CompleteWorkflowRequest) :
    (WorkerService.completeWorkflow cfg req).Uses Eventful := by
  refine uses_uuid_bind fun runId _ => (validate_idle fun _ h => h.eventful).bind fun _ => ?_
  refine Prog.Uses.bind (uses_call ?_) fun _ => ?_
  · refine (Prog.uses_ofExcept _).bind fun _ => ?_
    refine Prog.Uses.bind (uses_sql (Idle.eventful ⟨rfl, rfl, rfl⟩)) fun hit => ?_
    split
    next => trivial
    next => exact uses_sql (Idle.eventful ⟨rfl, rfl, rfl⟩)
  · exact Prog.Uses.bind (record_eventful rfl _).attempt fun _ => trivial

theorem failWorkflow_eventful (req : FailWorkflowRequest) :
    (WorkerService.failWorkflow cfg req).Uses Eventful := by
  refine uses_uuid_bind fun runId _ => (validate_idle fun _ h => h.eventful).bind fun _ => ?_
  refine Prog.Uses.bind (uses_call ?_) fun _ => ?_
  · exact Prog.Uses.bind (uses_sql (Idle.eventful ⟨rfl, rfl, rfl⟩)) fun _ => trivial
  · exact Prog.Uses.bind (record_eventful rfl _).attempt fun _ => trivial

/-- Another request writes no step. -/
theorem idle_of_footprint {req : Request} {q : Stmt} (hname : req.stepName = none)
    (hrec : req.recordsEvent = false) (h : req.footprint cfg q) : Idle q := by
  have hinsert : ∀ step, ¬ req.mayInsert cfg step := fun step h => by
    cases req with
    | beginStep _ => cases hname
    | completeStep _ => cases hname
    | failStep _ => cases hname
    | pollTask _ _ => cases hrec
    | cancelWorkflow _ => cases hrec
    | completeWorkflow _ => cases hrec
    | failWorkflow _ => cases hrec
    | _ => exact h
  cases q with
  | supersede step => exact absurd h.2 (hinsert step)
  | insertStep step => exact absurd h.2 (hinsert step)
  | completeRunningStep _ _ _ =>
      obtain ⟨⟨r, rfl⟩ | ⟨r, rfl⟩, -⟩ := h.2 <;> cases hname
  | failRunningStep _ _ _ =>
      obtain ⟨⟨r, rfl⟩, -⟩ := h.2
      cases hname
  | failLatestStep _ _ _ =>
      obtain ⟨⟨r, rfl⟩, -⟩ := h.2
      cases hname
  | recordLatestStep _ _ _ _ _ =>
      have hr : req.recordsEvent = true := h.2.1
      rw [hrec] at hr
      cases hr
  | _ => exact ⟨rfl, rfl, rfl⟩

/-- The handlers of all other requests than a worker's for a step. -/
theorem handle_eventful {req : Request} (hname : req.stepName = none) :
    (handle cfg req).Uses Eventful := by
  cases hrec : req.recordsEvent with
  | false => exact (handle_footprint cfg req).mono fun q h => (idle_of_footprint hname hrec h).eventful
  | true =>
      cases req with
      | pollTask req waits => exact pollTask_eventful req waits
      | cancelWorkflow req => exact cancelWorkflow_eventful req
      | completeWorkflow req => exact completeWorkflow_eventful req
      | failWorkflow req => exact failWorkflow_eventful req
      | _ => cases hrec

/-! ### Requests of workers for a step -/

/-- The output that a statement has found, of an attempt that is completed. -/
def found : Ran → Option (Uuid × String × Option Bytes)
  | ⟨_, _, .latestStep runId stepId, .ok (some ⟨.completed, output⟩)⟩ => some (runId, stepId, output)
  | _ => none

/-- The caller has found the output. -/
def Found (i : Nat) (runId : Uuid) (stepId : String) (output : Option Bytes) (m : Now) : Prop :=
  ∃ ran ∈ m.trace, ran.caller = i ∧ found ran = some (runId, stepId, output)

theorem found_invariant {M : Engine Stmt Stmt.Result World Env} {output : Option Bytes} :
    Invariant M (Found i runId stepId output) := by
  rintro j e q m ⟨ran, hran, h⟩ -
  exact ⟨ran, List.mem_cons_of_mem _ hran, h⟩

/-- A part of a handler that inserts no attempt but running ones. -/
theorem sat_local {α ε : Type} {p : Prog Stmt Stmt.Result ε α} (runId : Uuid) (hout : stepId ∉ eventIds)
    (hp : p.Uses fun q => Local runId stepId q ∧
      ∀ step, q.inserted = some step → step.status = .running) :
    Sat store tidy i Sorted p (fun _ => Sorted) (fun _ => Sorted) :=
  Sat.of_uses hp sorted_invariant.stable fun _ q m hq hm _ =>
    have hΓ : Tidy q m := hq.1.tidy hout fun step hs => .inl (hq.2 step hs)
    ⟨hΓ, hm.after hΓ⟩

/-- A part of a handler that inserts attempts of a step that has been handed out. -/
theorem sat_begun {α ε : Type} {p : Prog Stmt Stmt.Result ε α} (hout : stepId ∉ eventIds)
    (hp : p.Uses (Local runId stepId)) :
    Sat store tidy i (fun m => Begun runId stepId m ∧ Sorted m) p (fun _ => Sorted) (fun _ => Sorted) := by
  refine (Sat.of_uses hp (begun_invariant.stable.and sorted_invariant.stable) fun e q m hq hm _ => ?_).mono
    (fun _ h => h) (fun _ _ h => h.2) fun _ _ h => h.2
  have hΓ : Tidy q m := hq.tidy hout fun _ _ => .inr hm.1
  exact ⟨hΓ, hm.1.after, hm.2.after hΓ⟩

/-- A step with an attempt has been handed out. -/
theorem sat_latestStepKindStrict (hout : stepId ∉ eventIds) :
    Sat store tidy i Sorted (StepRepository.latestStepKindStrict runId stepId)
      (fun kind m => kind.isWorkers = true ∧ Begun runId stepId m ∧ Sorted m) (fun _ => Sorted) := by
  have hread : Sat store tidy i Sorted (sql (.latestStepKind runId stepId))
      (fun answer m => (∀ kind, answer = some kind → kind.isWorkers = true ∧ Begun runId stepId m) ∧
        Sorted m) (fun _ => Sorted) := by
    refine sat_sql_learn (fun e m _ _ => (Idle.eventful ⟨rfl, rfl, rfl⟩).tidy) sorted_invariant
      (fun answer j e q m h _ kind hkind => ⟨(h kind hkind).1, (h kind hkind).2.after⟩) ?_
    intro e m answer hm _ hres kind hkind
    have hok : ((Stmt.latestStepKind runId stepId).exec e m.store.db).1 = .ok answer := hres
    rw [Stmt.exec_ok hok] at hok
    obtain rfl := Except.ok.inj hok
    obtain ⟨row, hrow, rfl⟩ := Option.map_eq_some_iff.mp hkind
    obtain ⟨hrun, hid, -⟩ := isLatestOf_iff.mp (Db.isLatestOf_of_latest hrow)
    obtain ⟨hfits, hbegun⟩ := hm row (Db.mem_of_latest hrow)
    rw [hrun, hid] at hbegun
    exact ⟨by split <;> rfl, (hbegun (hfits.mpr (hid ▸ hout))).after⟩
  refine Sat.bind hread fun answer => ?_
  cases answer with
  | none => exact fun _ hm => hm.2
  | some kind => exact fun _ hm => ⟨(hm.1 kind rfl).1, (hm.1 kind rfl).2, hm.2⟩

/-- An insertion for a step of the worker. -/
theorem local_insert {step : NewStep} (hkind : step.stepKind.isWorkers = true) (hrun : step.runId = runId)
    (hid : step.stepId = stepId) : AllowsInsert (Local runId stepId) step := by
  have hstep : ∀ step', some step = some step' →
      step'.stepKind.isWorkers = true ∧ step'.runId = runId ∧ step'.stepId = stepId := fun step' hs => by
    obtain rfl := Option.some.inj hs
    exact ⟨hkind, hrun, hid⟩
  exact ⟨⟨hstep, (fun _ hs => by cases hs), rfl⟩, hstep, (fun _ hs => by cases hs), rfl⟩

/-- An update of a step of the worker. -/
theorem local_mark {q : Stmt} (hins : q.inserted = none) (hrec : recorded q = none)
    (hq : marked q = some stepId) : Local runId stepId q where
  inserted := fun _ hs => by simp [hins] at hs
  marked := fun stepId' hs => by
    rw [hq] at hs
    exact (Option.some.inj hs).symm
  recorded := hrec

theorem sat_complete (hout : stepId ∉ eventIds) (max : Nat) (output : Bytes) :
    Sat store tidy i Sorted (StepRepository.complete max runId stepId output) (fun _ => Sorted)
      (fun _ => Sorted) := by
  refine Sat.ofExcept_bind (fun _ _ => ?_) fun _ _ h => h
  refine Sat.bind (sat_latestStepKindStrict hout) fun kind => Sat.of_fact fun hkind => sat_begun hout ?_
  refine (uses_sql (local_mark rfl rfl rfl)).bind fun hit => ?_
  cases hit with
  | true => trivial
  | false =>
      refine (uses_sql (Idle.isLocal ⟨rfl, rfl, rfl⟩)).bind fun answer => ?_
      split
      next => trivial
      next =>
        refine (uses_sql (Idle.isLocal ⟨rfl, rfl, rfl⟩)).bind fun _ => ?_
        exact replaceLatest_uses (local_insert hkind rfl rfl)

theorem sat_failForGood {params : FailStepParams} (hout : params.stepId ∉ eventIds) :
    Sat store tidy i Sorted (StepRepository.failForGood params) (fun _ => Sorted) (fun _ => Sorted) := by
  refine Sat.bind (sat_latestStepKindStrict hout) fun kind => Sat.of_fact fun hkind => sat_begun hout ?_
  refine (uses_sql (local_mark rfl rfl rfl)).bind fun hit => ?_
  cases hit with
  | true => trivial
  | false =>
      refine (uses_sql (Idle.isLocal ⟨rfl, rfl, rfl⟩)).bind fun _ => ?_
      refine Prog.Uses.bind (replaceLatest_uses ?_) fun _ => trivial
      exact local_insert hkind rfl rfl

theorem sat_fail {params : FailStepParams} (hout : params.stepId ∉ eventIds) :
    Sat store tidy i Sorted (StepRepository.fail params) (fun _ => Sorted) (fun _ => Sorted) := by
  have hidle : ∀ {q : Stmt}, Idle q → Local params.runId params.stepId q ∧
      ∀ step, q.inserted = some step → step.status = .running := fun h =>
    ⟨h.isLocal, fun _ hs => by simp [h.1] at hs⟩
  refine Sat.bind (sat_local params.runId hout (uses_sql (hidle ⟨rfl, rfl, rfl⟩))) fun info => ?_
  cases info with
  | none => exact sat_failForGood hout
  | some info =>
      dsimp only
      split
      next =>
        refine sat_local params.runId hout (Prog.Uses.bind ?_ fun delayMs => Prog.Uses.bind (uses_sql ?_) fun _ => trivial)
        · unfold StepRepository.retryDelayMs
          split
          next => trivial
          next => exact (uses_sql (hidle ⟨rfl, rfl, rfl⟩)).bind fun _ => trivial
        · exact ⟨local_mark rfl rfl rfl, fun _ hs => by cases hs⟩
      next => exact sat_failForGood hout

/-- `begin` inserts a running attempt, or has found an output. -/
theorem sat_begin (max : Nat) {params : BeginStepParams} (hout : params.stepId ∉ eventIds)
    (hkind : params.stepKind.isWorkers = true) :
    Sat store tidy i Sorted (StepRepository.begin max params)
      (fun result m => (result.shouldExecute = false →
        Found i params.runId params.stepId result.cachedOutput m) ∧ Sorted m) (fun _ => Sorted) := by
  have hread : Sat store tidy i Sorted (sql (.latestStep params.runId params.stepId))
      (fun answer m => (∀ output, answer = some ⟨.completed, output⟩ →
        Found i params.runId params.stepId output m) ∧ Sorted m) (fun _ => Sorted) := by
    refine sat_sql_learn (fun e m _ _ => (Idle.eventful ⟨rfl, rfl, rfl⟩).tidy) sorted_invariant
      (fun answer j e q m h ha output heq => found_invariant j e q m (h output heq) ha) ?_
    intro e m answer _ _ hres output heq
    refine ⟨_, List.mem_cons_self .., rfl, ?_⟩
    rw [hres, heq]
    rfl
  refine Sat.ofExcept_bind (fun _ _ => ?_) fun _ _ h => h
  refine Sat.bind hread fun answer => ?_
  have hinsert : Sat store tidy i Sorted (do
      let attemptId ← sql .newUuid
      StepRepository.replaceLatest (StepRepository.beginRow params attemptId)
      pure (⟨true, none⟩ : BeginStepResult)) (fun result m => (result.shouldExecute = false →
        Found i params.runId params.stepId result.cachedOutput m) ∧ Sorted m) (fun _ => Sorted) := by
    have hrow : ∀ attemptId, AllowsInsert (fun q => Local params.runId params.stepId q ∧
        ∀ step, q.inserted = some step → step.status = .running)
        (StepRepository.beginRow params attemptId) := fun attemptId => by
      have hallows : AllowsInsert (Local params.runId params.stepId)
          (StepRepository.beginRow params attemptId) := local_insert hkind rfl rfl
      obtain ⟨hsupersede, hins⟩ := hallows
      refine ⟨⟨hsupersede, fun step hs => ?_⟩, hins, fun step hs => ?_⟩
      · obtain rfl := Option.some.inj hs
        rfl
      · obtain rfl := Option.some.inj hs
        rfl
    refine Sat.bind (sat_local params.runId hout (uses_sql ⟨Idle.isLocal ⟨rfl, rfl, rfl⟩, fun _ hs => by cases hs⟩))
      fun attemptId => ?_
    refine Sat.bind (sat_local params.runId hout (replaceLatest_uses (hrow attemptId))) fun _ => ?_
    exact fun m hm => ⟨(fun hno => by cases hno), hm⟩
  split
  next output => exact fun m hm => ⟨fun _ => hm.1 output rfl, hm.2⟩
  next => exact hinsert.start fun _ hm => hm.2

theorem sat_validate :
    Sat store tidy i Sorted (WorkerService.validateWorkflowAction cfg runId) (fun _ => Sorted)
      (fun _ => Sorted) :=
  Sat.of_uses (validate_idle fun _ h => h.eventful) sorted_invariant.stable fun _ _ _ hq hm _ =>
    ⟨hq.tidy, hm.after hq.tidy⟩

theorem mapProtoStepKind_isWorkers {n : Int} {kind : StepKind}
    (h : WorkerService.mapProtoStepKind n = .ok kind) : kind.isWorkers = true := by
  unfold WorkerService.mapProtoStepKind at h
  split at h
  next => cases h; rfl
  next =>
    split at h
    next => cases h; rfl
    next =>
      split at h
      next => cases h; rfl
      next => split at h <;> cases h

/-- `begin_step` answers that a step is not to be executed if it has found its output. -/
theorem sat_beginStep {req : BeginStepRequest} (hout : req.stepName ∉ eventIds) :
    Sat store tidy i Sorted (WorkerService.beginStep cfg req)
      (fun resp m => ∀ stepId payload, resp = .beginStep stepId false payload →
        ∀ runId, cfg.parseUuid req.runId = some runId →
          ∃ output, bytesToPayload output = payload ∧ Found i runId req.stepName output m)
      (fun _ _ => True) := by
  refine sat_uuid_bind (fun runId hid => ?_) fun _ _ _ => trivial
  refine Sat.bind (sat_validate.mono (fun _ h => h) (fun _ _ h => h) fun _ _ _ => trivial) fun _ => ?_
  have hpolicy : Sat store tidy i Sorted (stmt (.getRetryPolicy runId)) (fun _ => Sorted)
      (fun _ => Sorted) := (sat_local runId hout (uses_sql ⟨Idle.isLocal ⟨rfl, rfl, rfl⟩,
        fun _ hs => by cases hs⟩)).mapError fun _ _ h => h
  refine Sat.bind (hpolicy.mono (fun _ h => h) (fun _ _ h => h) fun _ _ _ => trivial) fun policy => ?_
  refine Sat.ofExcept_bind (fun stepKind hkind => ?_) fun _ _ _ => trivial
  refine Sat.bind ((sat_begin _ hout (mapProtoStepKind_isWorkers hkind)).mapError fun _ _ _ => trivial)
    fun result => ?_
  have hfinish : Sat store tidy i Sorted
      (WorkerService.finishSleep cfg runId req.stepName stepKind result) (fun _ => Sorted)
      (fun _ => Sorted) := by
    unfold WorkerService.finishSleep
    split
    next => exact (sat_complete hout _ _).mapError fun _ _ h => h
    next => exact fun _ h => h
  have hkeep : Invariant (store.restrict tidy) fun m => result.shouldExecute = false →
      Found i runId req.stepName result.cachedOutput m :=
    fun j e q m h ha hno => found_invariant j e q m (h hno) ha
  refine Sat.bind (((hfinish.frame hkeep).start fun _ hm => ⟨hm.2, hm.1⟩).mono (fun _ h => h)
    (fun _ _ h => h) fun _ _ _ => trivial) fun _ => ?_
  intro m hm stepId payload hresp runId' hid'
  obtain rfl := Option.some.inj (hid.symm.trans hid')
  obtain ⟨-, hno, rfl⟩ : req.stepName = stepId ∧ result.shouldExecute = false ∧
      bytesToPayload result.cachedOutput = payload := by simpa using hresp
  exact ⟨_, rfl, hm.2 hno⟩

theorem sat_completeStep {req : CompleteStepRequest} (hout : req.stepId ∉ eventIds) :
    Sat store tidy i Sorted (WorkerService.completeStep cfg req) (fun _ _ => True) (fun _ _ => True) := by
  refine sat_uuid_bind (fun runId _ => ?_) fun _ _ _ => trivial
  refine Sat.bind (sat_validate.mono (fun _ h => h) (fun _ _ h => h) fun _ _ _ => trivial) fun ns => ?_
  refine Sat.bind ((sat_complete hout _ _).mapError fun _ _ _ => trivial) fun _ => ?_
  have hlist : (stmt (.listSteps runId ns req.stepId 1)).Uses fun q => Local runId req.stepId q ∧
      ∀ step, q.inserted = some step → step.status = .running :=
    uses_stmt ⟨Idle.isLocal ⟨rfl, rfl, rfl⟩, fun _ hs => by cases hs⟩
  refine Sat.bind ((sat_local runId hout hlist).mono (fun _ h => h) (fun _ _ h => h) fun _ _ _ => trivial)
    fun rows => ?_
  exact sat_orFail_bind (fun _ _ _ _ => trivial) fun _ _ => trivial

theorem sat_failStep {req : FailStepRequest} (hout : req.stepId ∉ eventIds) :
    Sat store tidy i Sorted (WorkerService.failStep cfg req) (fun _ _ => True) (fun _ _ => True) := by
  refine sat_uuid_bind (fun runId _ => sat_requireNonEmpty_bind ?_ fun _ _ _ => trivial) fun _ _ _ => trivial
  refine Sat.bind ((@sat_fail i (WorkerService.failStepParams runId req) hout).mapError fun _ _ _ => trivial)
    fun result => ?_
  have hretry : (WorkerService.scheduleRetry runId result.scheduleWorkflowRetryMs).Uses Eventful := by
    unfold WorkerService.scheduleRetry
    split
    next => exact uses_call ((uses_sql (Idle.eventful ⟨rfl, rfl, rfl⟩)).bind fun _ => trivial)
    next => trivial
  refine Sat.bind ((Sat.of_uses hretry sorted_invariant.stable fun _ _ _ hq hm _ =>
    ⟨hq.tidy, hm.after hq.tidy⟩).mono (fun _ h => h) (fun _ _ h => h) fun _ _ _ => trivial) fun _ => ?_
  exact fun _ _ => trivial

/-- A `BeginStep` that answers that the step is not to be executed has found its output. -/
def FoundIfCached (cfg : Config) (i : Nat) : Request → Response → Now → Prop
  | .beginStep req, .beginStep _ false payload, m =>
      ∀ runId, cfg.parseUuid req.runId = some runId →
        ∃ output, bytesToPayload output = payload ∧ Found i runId req.stepName output m
  | _, _, _ => True

theorem sat_handle {req : Request} (hout : Named (· ∉ eventIds) req) :
    Sat store tidy i Sorted (handle cfg req) (FoundIfCached cfg i req) (fun _ _ => True) := by
  cases hname : req.stepName with
  | none =>
      refine (Sat.of_uses (handle_eventful hname) sorted_invariant.stable fun _ _ _ hq hm _ =>
        ⟨hq.tidy, hm.after hq.tidy⟩).mono (fun _ h => h) (fun resp m _ => ?_) fun _ _ _ => trivial
      cases req with
      | beginStep _ => cases hname
      | _ => trivial
  | some name =>
      cases req with
      | beginStep req =>
          refine (sat_beginStep (hout _ rfl)).mono (fun _ h => h) (fun resp m h => ?_) fun _ _ h => h
          cases resp with
          | beginStep stepId execute payload =>
              cases execute with
              | true => trivial
              | false => exact h stepId payload rfl
          | _ => trivial
      | completeStep req =>
          exact (sat_completeStep (hout _ rfl)).mono (fun _ h => h) (fun _ _ _ => trivial) fun _ _ h => h
      | failStep req =>
          exact (sat_failStep (hout _ rfl)).mono (fun _ h => h) (fun _ _ _ => trivial) fun _ _ h => h
      | _ => cases hname

end Judgements

/-! ## The runs -/

section Runs
variable {cfg : Config} {names : String → Prop} {w : World} {p : ServerState}

theorem serves (hnames : ∀ name, names name → name ∉ eventIds) :
    Serves (service cfg names) tidy Sorted (FoundIfCached cfg) (fun _ _ _ _ => True) :=
  fun _ _ hnamed => ⟨Sorted, sorted_invariant.stable, fun _ hm _ => hm,
    sat_handle fun name h => hnames name (hnamed name h)⟩

/-- What a worker's call may ask for. -/
structure Asks (req : Request) (q : Stmt) : Prop where
  inserted : ∀ name, req.stepName = some name → ∀ step, q.inserted = some step → step.stepId = name
  recorded : req.stepName.isSome = true → recorded q = none

theorem handle_asks (req : Request) : (handle cfg req).Uses (Asks req) := by
  have hof : ∀ {req : Request} {name : String} {q : Stmt}, req.stepName = some name →
      (∀ step, q.inserted = some step → step.stepId = name) → recorded q = none → Asks req q :=
    fun hname hins hrec => ⟨fun name' hname' step hs => by
      rw [hname] at hname'
      exact (hins step hs).trans (Option.some.inj hname'), fun _ => hrec⟩
  have hidle : ∀ {req : Request} {name : String} {q : Stmt}, req.stepName = some name → Idle q →
      Asks req q := fun hname h => hof hname (fun _ hs => by simp [h.1] at hs) h.2.2
  have hinsert : ∀ {req : Request} {name : String} {step : NewStep}, req.stepName = some name →
      step.stepId = name → AllowsInsert (Asks req) step := fun hname hid => by
    constructor
    · refine hof hname (fun step' hs => ?_) rfl
      obtain rfl := Option.some.inj hs
      exact hid
    · refine hof hname (fun step' hs => ?_) rfl
      obtain rfl := Option.some.inj hs
      exact hid
  cases req with
  | beginStep req =>
      refine uses_uuid_bind fun runId _ => (validate_idle fun _ h => hidle rfl h).bind fun _ => ?_
      refine (uses_stmt (hidle rfl ⟨rfl, rfl, rfl⟩)).bind fun _ => (Prog.uses_ofExcept _).bind fun kind => ?_
      refine (uses_call (begin_uses (fun h => hidle rfl (idle_of_readsSteps h)) _ fun _ =>
        hinsert rfl rfl)).bind fun result => Prog.Uses.bind ?_ fun _ => trivial
      unfold WorkerService.finishSleep
      split
      next =>
        exact uses_call (complete_uses (fun h => hidle rfl (idle_of_readsSteps h)) _
          (hof rfl (fun _ hs => by cases hs) rfl) fun _ _ hid => hinsert rfl hid)
      next => trivial
  | completeStep req =>
      refine uses_uuid_bind fun runId _ => (validate_idle fun _ h => hidle rfl h).bind fun ns => ?_
      refine (uses_call (complete_uses (fun h => hidle rfl (idle_of_readsSteps h)) _
        (hof rfl (fun _ hs => by cases hs) rfl) fun _ _ hid => hinsert rfl hid)).bind fun _ => ?_
      refine (uses_stmt (hidle rfl ⟨rfl, rfl, rfl⟩)).bind fun rows => ?_
      exact (uses_orFail _ _).bind fun _ => trivial
  | failStep req =>
      refine uses_uuid_bind fun runId _ => uses_requireNonEmpty_bind ?_
      refine (uses_call (fail_uses (fun h => hidle rfl (idle_of_readsSteps h))
        (hof rfl (fun _ hs => by cases hs) rfl) (hof rfl (fun _ hs => by cases hs) rfl)
          fun _ _ hid => hinsert rfl hid)).bind fun result => Prog.Uses.bind ?_ fun _ => trivial
      unfold WorkerService.scheduleRetry
      split
      next => exact uses_call ((uses_sql (hidle rfl ⟨rfl, rfl, rfl⟩)).bind fun _ => trivial)
      next => trivial
  | _ => exact (handle_footprint cfg _).mono fun q _ => ⟨(fun _ h => by cases h), (fun h => by cases h)⟩

/-- The past of a run in which workers keep off the ids of events. -/
structure Past (w : World) (trace : List Ran) : Prop where
  ran : ∀ later ran earlier, trace = later ++ ran :: earlier → RanAt store w ran earlier
  tidy : ∀ later ran earlier, trace = later ++ ran :: earlier →
    Tidy ran.query ⟨store.replay w earlier, earlier⟩

theorem past_of_steps (hrows : w.db.steps.rows = []) (hnames : ∀ name, names name → name ∉ eventIds)
    (h : Steps (service cfg names) (.init w []) p) :
    Past w p.trace ∧ Sound (service cfg names) tidy (FoundIfCached cfg) (fun _ _ _ _ => True) p := by
  have hsorted : Sorted ⟨w, []⟩ := fun s hs => by
    rw [show (⟨w, []⟩ : Now).store.db.steps.rows = [] from hrows] at hs
    cases hs
  obtain ⟨hguarded, hsound⟩ := h.sound (serves hnames) sorted_invariant hsorted (sound_nil w)
  exact ⟨⟨fun _ _ _ htrace => (hguarded.recalled_restrict htrace).1,
    fun _ _ _ htrace => (hguarded.recalled_restrict htrace).2⟩, hsound⟩

/-- The attempts are sorted at every moment of the past. -/
theorem Past.sorted {trace earlier : List Ran} (h : Past w trace) (hrows : w.db.steps.rows = [])
    (later : List Ran) (htrace : trace = later ++ earlier) : Sorted ⟨store.replay w earlier, earlier⟩ := by
  induction earlier generalizing later with
  | nil =>
      intro s hs
      rw [show (⟨store.replay w [], []⟩ : Now).store.db.steps.rows = [] from hrows] at hs
      cases hs
  | cons ran earlier ih =>
      have hbefore := ih (later ++ [ran]) (by simpa using htrace)
      have hafter := hbefore.after (i := ran.caller) (e := ran.env) (h.tidy later ran earlier htrace)
      have hsame : (⟨ran.caller, ran.env, ran.query,
          (store.exec ran.env ran.query (store.replay w earlier)).1⟩ : Ran) = ran := by
        rw [← (h.ran later ran earlier htrace).2]
      intro s hs
      obtain ⟨hfits, hbegun⟩ := hafter s hs
      refine ⟨hfits, fun hw => ?_⟩
      obtain ⟨ran', hran', hbegins⟩ := hbegun hw
      rw [Moment.after_trace, hsame] at hran'
      exact ⟨ran', hran', hbegins⟩

/-- A worker's call names no event. -/
theorem named_of_steps (h : Steps (service cfg names) (.init w []) p) {i : Nat} {req : Request}
    {c : Rpc Response} (hget : p.calls[i]? = some (req, c)) : Named names req :=
  h.calls (C := fun _ req _ => Named names req) (fun _ _ ha => ha) (fun _ _ _ _ _ h => h)
    (fun _ _ _ h => by cases h) i req c hget

/-- The output that a statement has found is that of the latest attempt. -/
theorem latest_of_found {ran : Ran} {runId : Uuid} {stepId : String} {output : Option Bytes}
    (h : found ran = some (runId, stepId, output))
    (hans : ran.answer = (store.exec ran.env ran.query w).1) :
    ∃ s, w.db.latest runId stepId = some s ∧ s.status = .completed ∧ s.output = output := by
  unfold found at h
  split at h
  next i e runId' stepId' output' =>
    cases h
    have hok : ((Stmt.latestStep runId stepId).exec e w.db).1 = .ok (some ⟨.completed, output⟩) :=
      hans.symm
    rw [Stmt.exec_ok hok] at hok
    obtain ⟨s, hs, heq⟩ := Option.map_eq_some_iff.mp (Except.ok.inj hok)
    obtain ⟨hstatus, houtput⟩ := ExistingStep.mk.inj heq
    exact ⟨s, hs, hstatus, houtput⟩
  next => cases h

/-- When no worker uses the id of an event, events and steps do not meet. -/
theorem separate_of_named (hrows : w.db.steps.rows = [])
    (hnames : ∀ name, names name → name ∉ eventIds) (h : Steps (service cfg names) (.init w []) p) :
    Separate cfg w p := by
  obtain ⟨hpast, hsound⟩ := past_of_steps hrows hnames h
  have hsame : ∀ {ran : Ran} {earlier : List Ran}, store.replay w (ran :: earlier) =
      (store.exec ran.env ran.query (store.replay w earlier)).2 := rfl
  refine ⟨fun later ran earlier htrace req c hget hname => ?_, fun later ran earlier htrace hrec => ?_,
    fun i req stepId payload hget runId hid => ?_⟩
  · obtain ⟨name, hname⟩ := Option.isSome_iff_exists.mp hname
    have htidy := hpast.tidy later ran earlier htrace
    have hsorted := hpast.sorted hrows (later ++ [ran]) (by simpa using htrace)
    have hasked : p.Asked Asks := h.asked (fun req _ => handle_asks req) (fun _ _ _ h => by cases h)
      fun _ h => by cases h
    obtain ⟨req', c', hget', hasks⟩ := hasked ran (by rw [htrace]; simp)
    obtain ⟨rfl, -⟩ := Prod.mk.inj (Option.some.inj (hget.symm.trans hget'))
    have hout := hnames name (named_of_steps h hget name hname)
    have hworker : ∀ step, ran.query.inserted = some step → step.stepKind.isWorkers = true :=
      fun step hs => (htidy.fits step hs).mpr (hasks.inserted name hname step hs ▸ hout)
    have hrecorded := hasks.recorded (by rw [hname]; rfl)
    have hrec : ran.query.recordsEvent = false := by
      cases hq : ran.query with
      | supersede step => simp [Stmt.recordsEvent, hworker step (by rw [hq]; rfl)]
      | insertStep step => simp [Stmt.recordsEvent, hworker step (by rw [hq]; rfl)]
      | recordLatestStep _ _ _ _ _ =>
          rw [hq] at hrecorded
          cases hrecorded
      | _ => rfl
    exact sameRows_events hsorted htidy hrec
  · have htidy := hpast.tidy later ran earlier htrace
    have hsorted := hpast.sorted hrows (later ++ [ran]) (by simpa using htrace)
    exact sameRows_workers hsorted htidy hrec
  · have hfound : FoundIfCached cfg i (.beginStep req) (.beginStep stepId false payload) p.toMoment :=
      hsound.result hget
    obtain ⟨output, rfl, ran, hran, hcaller, hout⟩ := hfound runId hid
    obtain ⟨later, earlier, htrace⟩ := List.append_of_mem hran
    have hsorted := hpast.sorted hrows (later ++ [ran]) (by simpa using htrace)
    have hname := hnames req.stepName (named_of_steps h hget _ rfl)
    obtain ⟨s, hs, hstatus, houtput⟩ : ∃ s, (store.replay w earlier).db.latest runId req.stepName = some s ∧
        s.status = .completed ∧ s.output = output :=
      latest_of_found hout (hpast.ran later ran earlier htrace).2
    obtain ⟨hrun, hstep, -⟩ := isLatestOf_iff.mp (Db.isLatestOf_of_latest hs)
    obtain ⟨hfits, hbegun⟩ := hsorted s (Db.mem_of_latest hs)
    have hworker : s.stepKind.isWorkers = true := hfits.mpr (hstep ▸ hname)
    obtain ⟨ran', hran', hbegins⟩ := hbegun hworker
    rw [hrun, hstep] at hbegins
    refine ⟨⟨later, ran, earlier, htrace, hcaller, s, hs, hworker, hstatus, by rw [houtput]⟩, ran', ?_,
      hbegins⟩
    rw [htrace]
    exact List.mem_append_right _ (List.mem_cons_of_mem _ hran')

/-- More names, more runs. -/
theorem steps_of_names {names' : String → Prop} {p p' : ServerState} (hnames : ∀ name, names name → names' name)
    (h : Steps (service cfg names) p p') : Steps (service cfg names') p p' := by
  induction h with
  | refl => exact .refl
  | tail _ hstep ih =>
      cases hstep with
      | start ha => exact ih.tail (Step.start (S := service cfg names') fun name hn => hnames name (ha name hn))
      | exec hc ha => exact ih.tail (Step.exec (S := service cfg names') hc ha)

end Runs

/-! ## The four ids -/

/-- A worker has claimed a run, and begins a step that it names like an event. -/
def misnamed (stepId : String) (statements : Nat) : ServerState :=
  fireAll (service .sample (· = stepId)) (.init (.empty 0) [])
    ([.start (.startWorkflow ⟨"job", "queue", "type", none, "ns", "", none⟩)] ++
      runs 0 6 (.quiet 0 1) ++
    [.start (.register ⟨"ns", "queue", ["type"], "host", 7, ""⟩)] ++ runs 1 1 (.quiet 0 2) ++
    [.start (.pollTask ⟨"queue", "2", "ns", ["type"]⟩ 0)] ++ runs 2 7 (.quiet 0 3) ++
    [.start (.beginStep ⟨"ns", "1", stepId, 1, none, none⟩)] ++ runs 3 statements (.quiet 0 4))

/-- The run is over, and the event is about to be recorded. -/
def ending (stepId : String) (last : Request) (statements : Nat) : ServerState :=
  fireAll (service .sample (· = stepId)) (misnamed stepId 7)
    ([.start last] ++ runs 4 statements (.quiet 0 5))

/-- The statement that a call makes next. -/
def next : Rpc Response → Option Stmt
  | .call q _ => some q
  | _ => none

/-- The answer of a call. -/
def answer : Rpc Response → Option Response
  | .ret resp => some resp
  | _ => none

/-- An event that is about to overwrite an attempt of a worker. -/
def Overwrites (p : ServerState) (i : Nat) (q : Stmt) (e : Env) : Prop :=
  (p.calls[i]?.bind fun c => next c.2) = some q ∧ q.recordsEvent = true ∧ store.admits i e q p.toMoment ∧
    ∃ s ∈ p.store.db.steps.rows, workers s = true ∧ s ∉ (store.exec e q p.store).2.db.steps.rows

instance (p : ServerState) (i : Nat) (q : Stmt) (e : Env) : Decidable (Overwrites p i q e) :=
  inferInstanceAs (Decidable (_ ∧ _ ∧ _ ∧ _))

theorem not_kept_apart_of_overwrites {cfg : Config} {names : String → Prop} {p : ServerState} {i : Nat}
    {q : Stmt} {e : Env} (hsteps : Steps (service cfg names) (.init (.empty 0) []) p)
    (h : Overwrites p i q e) : ¬ KeptApart cfg names := by
  intro hkept
  obtain ⟨hnext, hrec, hadmits, s, hs, hworker, hgone⟩ := h
  obtain ⟨⟨req, c⟩, hget, hc⟩ := Option.bind_eq_some_iff.mp hnext
  cases c with
  | call q' k =>
      obtain rfl := Option.some.inj hc
      have hstep := Step.exec (S := service cfg names) (m := p.toMoment) hget hadmits
      have hsame := (hkept _ _ rfl (hsteps.tail hstep)).event [] _ p.trace rfl hrec
      have hreplay : store.replay (.empty 0) p.trace = p.store := hsteps.recalled.1.symm
      have hafter := (hsame s hworker).mp (by rw [hreplay]; exact hs)
      rw [Engine.replay, hreplay] at hafter
      exact hgone hafter
  | ret _ => cases hc
  | fail _ => cases hc

/-- A step that is named like the first event is never executed. -/
theorem not_kept_apart_started {names : String → Prop} (h : names "__lifecycle:workflow_started") :
    ¬ KeptApart .sample names := by
  intro hkept
  have hsteps : Steps (service .sample (· = "__lifecycle:workflow_started")) (.init (.empty 0) [])
      (misnamed "__lifecycle:workflow_started" 4) := AllEnabled.steps (by decide +kernel)
  have hnever : ∀ ran ∈ (misnamed "__lifecycle:workflow_started" 4).trace,
      begins 1 "__lifecycle:workflow_started" ran = false := by decide +kernel
  have hanswer : ((misnamed "__lifecycle:workflow_started" 4).calls[3]?.map fun c => (c.1, answer c.2)) =
      some (.beginStep ⟨"ns", "1", "__lifecycle:workflow_started", 1, none, none⟩,
        some (.beginStep "__lifecycle:workflow_started" false [])) := by
    decide +kernel
  obtain ⟨⟨req, c⟩, hget, hc⟩ := Option.map_eq_some_iff.mp hanswer
  obtain ⟨rfl, hc⟩ := Prod.mk.inj hc
  cases c with
  | ret resp =>
      obtain rfl := Option.some.inj hc
      have hsteps' : Steps (service .sample names) _ _ :=
        steps_of_names (fun _ hn => by rw [hn]; exact h) hsteps
      obtain ⟨ran, hran, hbegins⟩ := ((hkept _ _ rfl hsteps').cached 3 _ _ _ hget 1 rfl).executed
      rw [hnever ran hran] at hbegins
      cases hbegins
  | call _ _ => cases hc
  | fail _ => cases hc

/-- An attempt of a worker is overwritten when its run ends. -/
theorem not_kept_apart_ended {names : String → Prop} {stepId : String} {last : Request} {n : Nat} {q : Stmt}
    (h : names stepId)
    (hsteps : Steps (service .sample (· = stepId)) (.init (.empty 0) []) (misnamed stepId 7))
    (hend : Steps (service .sample (· = stepId)) (misnamed stepId 7) (ending stepId last n))
    (hover : Overwrites (ending stepId last n) 4 q (.quiet 0 5)) : ¬ KeptApart .sample names :=
  not_kept_apart_of_overwrites
    (steps_of_names (fun _ hn => by rw [hn]; exact h) (hsteps.trans hend)) hover

theorem not_kept_apart_completed {names : String → Prop} (h : names "__lifecycle:workflow_completed") :
    ¬ KeptApart .sample names := by
  have hover : Overwrites (ending "__lifecycle:workflow_completed"
      (.completeWorkflow ⟨"ns", "1", none⟩) 3) 4
      (.recordLatestStep 1 "__lifecycle:workflow_completed" .completed (some []) none) (.quiet 0 5) := by
    decide +kernel
  exact not_kept_apart_ended h (AllEnabled.steps (by decide +kernel))
    (AllEnabled.steps (by decide +kernel)) hover

theorem not_kept_apart_failed {names : String → Prop} (h : names "__lifecycle:workflow_failed") :
    ¬ KeptApart .sample names := by
  have hover : Overwrites (ending "__lifecycle:workflow_failed" (.failWorkflow ⟨"ns", "1", none⟩) 3) 4
      (.recordLatestStep 1 "__lifecycle:workflow_failed" .failed (some []) none) (.quiet 0 5) := by
    decide +kernel
  exact not_kept_apart_ended h (AllEnabled.steps (by decide +kernel))
    (AllEnabled.steps (by decide +kernel)) hover

theorem not_kept_apart_cancelled {names : String → Prop} (h : names "__lifecycle:workflow_cancelled") :
    ¬ KeptApart .sample names := by
  have hover : Overwrites (ending "__lifecycle:workflow_cancelled" (.cancelWorkflow ⟨"1", "ns"⟩) 1) 4
      (.recordLatestStep 1 "__lifecycle:workflow_cancelled" .completed none none) (.quiet 0 5) := by
    decide +kernel
  exact not_kept_apart_ended h (AllEnabled.steps (by decide +kernel))
    (AllEnabled.steps (by decide +kernel)) hover

/-- Whatever the names of a worker's steps, they and the events are kept apart exactly if
none is the id of an event. -/
theorem kept_apart_iff (names : String → Prop) :
    (∀ cfg, KeptApart cfg names) ↔ ∀ name ∈ eventIds, ¬ names name := by
  constructor
  · intro hkept name hname hnamed
    have hids : eventIds = ["__lifecycle:workflow_started", "__lifecycle:workflow_completed",
        "__lifecycle:workflow_failed", "__lifecycle:workflow_cancelled"] := by decide +kernel
    rw [hids] at hname
    simp only [List.mem_cons, List.not_mem_nil, or_false] at hname
    rcases hname with rfl | rfl | rfl | rfl
    · exact not_kept_apart_started hnamed (hkept .sample)
    · exact not_kept_apart_completed hnamed (hkept .sample)
    · exact not_kept_apart_failed hnamed (hkept .sample)
    · exact not_kept_apart_cancelled hnamed (hkept .sample)
  · exact fun hnone cfg w p hrows hsteps =>
      separate_of_named hrows (fun name hn hmem => hnone name hmem hn) hsteps

/-- Workers may name their steps as they like, and a step is never executed. -/
theorem step_is_never_executed : ¬ ∀ cfg, KeptApart cfg fun _ => True :=
  fun hkept => not_kept_apart_started trivial (hkept .sample)

end LifecycleRows

end Kagzi
