import Kagzi.Lifecycle
import Kagzi.Store.StepChange

/-!
# The history of a run that is over

The steps that a worker has created are to stay as they are once their run is over.
`begin_step` and `complete_step` look at the status of the run before they write, in a
query of its own, and `fail_step` does not look at all: a step of a run that has been
terminated can be failed (`history_is_not_frozen`).

A worker's steps stay as they are in the runs in which a statement finds the run of the
steps that it writes not over, unless its own request has found it over already
(`history_is_frozen_if_calm`).  A `BeginStep` and a `CompleteStep` that have found a run
over write nothing.
-/

namespace Kagzi

open Atomic Relational

/-- The steps of this kind are created by workers. -/
def StepKind.isWorkers : StepKind → Bool
  | .function => true
  | .sleep => true
  | _ => false

/-- The run is completed, failed or cancelled. -/
def World.Over (w : World) (runId : Uuid) : Prop :=
  ∃ r, w.run runId = some r ∧ r.status.isTerminal = true

namespace FrozenHistory

/-- The server without the requests that manage schedules. -/
abbrev service (cfg : Config) : Service Stmt Stmt.Result World Env Request Status Response :=
  Lifecycle.service cfg

/-- Every worker's step of the run that is there afterwards was there before. -/
def Frozen (runId : Uuid) (before after : World) : Prop :=
  ∀ s ∈ after.db.steps.rows, s.runId = runId → s.stepKind.isWorkers = true → s ∈ before.db.steps.rows

/-- From when a run is over, no worker's step of it is added or changed. -/
def HistoryFrozen (S : Service Stmt Stmt.Result World Env Request Status Response) : Prop :=
  ∀ (w : World) (p : ServerState), Steps S (.init w []) p →
    ∀ later mid earlier, p.trace = later ++ (mid ++ earlier) →
      ∀ runId, (store.replay w earlier).Over runId →
        Frozen runId (store.replay w earlier) (store.replay w (mid ++ earlier))

/-! ## The condition -/

/-- The run that the check of a handler has found over. -/
def foundOver : Ran → Option Uuid
  | ⟨_, _, .checkWorkflowState runId _, .ok check⟩ =>
      if check.status.any WorkflowStatus.isTerminal then some runId else none
  | _ => none

/-- The statement writes the steps of workers. -/
def writesSteps : Stmt → Bool
  | .supersede step => step.stepKind.isWorkers
  | .insertStep step => step.stepKind.isWorkers
  | .completeRunningStep _ _ _ => true
  | .failRunningStep _ _ _ => true
  | .failLatestStep _ _ _ => true
  | _ => false

/-- The `UPDATE` of the statement hits a worker's step of the run, or its `INSERT` is
one. -/
def Touches (e : Env) (q : Stmt) (w : World) (runId : Uuid) : Prop :=
  (∃ p f, q.stepUpdate e = some (p, f) ∧ ∃ s ∈ w.db.steps.rows, p s = true ∧ s.runId = runId ∧
    s.stepKind.isWorkers = true) ∨
  ∃ step, q.inserted = some step ∧ step.runId = runId ∧ step.stepKind.isWorkers = true

/-- A statement that does not fault touches the steps of no run that is over, unless it
is a write of a step and its request had found the run over. -/
def Calm : Condition Stmt Stmt.Result World Env := fun i e q m =>
  e.fault = false → ∀ runId, Touches e q m.store runId → m.store.Over runId →
    writesSteps q = true ∧ ∃ ran ∈ m.trace, ran.caller = i ∧ foundOver ran = some runId

/-! ## One statement -/

/-- A statement that adds or changes a worker's step of a run touches its steps. -/
theorem touches_of_new {e : Env} {q : Stmt} {w : World} {runId : Uuid} {s : StepRow}
    (hs : s ∈ (store.exec e q w).2.db.steps.rows) (hrun : s.runId = runId)
    (hkind : s.stepKind.isWorkers = true) (hnew : s ∉ w.db.steps.rows) :
    e.fault = false ∧ Touches e q w runId := by
  have hmem : s ∈ (q.exec e w.db).2.steps.rows := hs
  constructor
  · by_contra hfault
    cases hlocal : q.isLocal with
    | true =>
        have hspare : q.sparesSteps = true := by cases q <;> first | rfl | cases hlocal
        rcases q.exec_cases e w.db with hx | hx
        · rw [hx] at hmem
          exact hnew hmem
        · rw [hx, q.sql_sparesSteps hspare e w.db] at hmem
          exact hnew hmem
    | false =>
        rw [Stmt.exec_of_fault (by simpa using hfault) hlocal] at hmem
        exact hnew hmem
  · cases Stmt.exec_attempt hmem with
    | kept hold => exact absurd hold hnew
    | @updated s₀ p f hold hq hp =>
        have hsame := Stmt.stepUpdate_keeps hq s₀
        exact .inl ⟨p, f, hq, s₀, hold, hp, hsame.runId ▸ hrun, hsame.stepKind ▸ hkind⟩
    | inserted hq => exact .inr ⟨_, hq, hrun, hkind⟩

/-! ## What the handlers have found -/

/-- The caller has found no run over. -/
def FoundNone (i : Nat) (m : Now) : Prop :=
  ∀ ran ∈ m.trace, ran.caller = i → foundOver ran = none

/-- A worker's steps are written by callers that have found no run over. -/
def Unfound : Condition Stmt Stmt.Result World Env := fun i _ q m =>
  writesSteps q = true → FoundNone i m

section Judgements
variable {M : Engine Stmt Stmt.Result World Env} {cfg : Config} {i : Nat} {runId : Uuid} {α ε : Type}

theorem foundNone_stable : Stable M Unfound i (FoundNone i) := by
  intro j e q m hj hm _ _ ran hran hcaller
  rcases List.mem_cons.mp hran with rfl | hran
  · exact absurd hcaller hj
  · exact hm ran hran hcaller

/-- The statement is no check. -/
def Unchecked : Stmt → Prop
  | .checkWorkflowState _ _ => False
  | _ => True

theorem foundNone_after {e : Env} {q : Stmt} {m : Now} (hq : Unchecked q) (hm : FoundNone i m) :
    FoundNone i (m.after M i e q) := by
  intro ran hran hcaller
  rcases List.mem_cons.mp hran with rfl | hran
  · cases q with
    | checkWorkflowState runId ns => exact hq.elim
    | _ => rfl
  · exact hm ran hran hcaller

/-- A part of a handler without a check. -/
theorem sat_unchecked {p : Prog Stmt Stmt.Result ε α} (hp : p.Uses Unchecked) :
    Sat M Unfound i (FoundNone i) p (fun _ => FoundNone i) (fun _ => FoundNone i) :=
  Sat.of_uses hp foundNone_stable fun _ _ _ hq hm _ => ⟨fun _ => hm, foundNone_after hq hm⟩

/-- A handler that goes on after its check has found no run over. -/
theorem sat_validateWorkflowAction :
    Sat M Unfound i (FoundNone i) (WorkerService.validateWorkflowAction cfg runId)
      (fun _ => FoundNone i) (fun _ _ => True) := by
  refine Sat.bind ((sat_unchecked (uses_stmt (q := .getNamespace runId) trivial)).mono (fun _ h => h) (fun _ _ h => h)
    fun _ _ _ => trivial) fun found => ?_
  refine Sat.bind ((sat_unchecked (uses_orFail _ _)).mono (fun _ h => h) (fun _ _ h => h)
    fun _ _ _ => trivial) fun ns => ?_
  have hcheck : Sat M Unfound i (FoundNone i) (stmt (.checkWorkflowState runId ns))
      (fun check m => check.status.any WorkflowStatus.isTerminal = false → FoundNone i m)
      (fun _ _ => True) := by
    refine (sat_sql (fun check => (Stable.imp fun _ => foundNone_stable)) fun e m hm ha =>
      ⟨fun hwrite => (by cases hwrite), fun check hres hlive ran hran hcaller => ?_⟩).mapError fun _ _ _ => trivial
    rcases List.mem_cons.mp hran with rfl | hran
    · show foundOver ⟨i, e, .checkWorkflowState runId ns, (M.exec e (.checkWorkflowState runId ns)
        m.store).1⟩ = none
      rw [hres]
      simp [foundOver, hlive]
    · exact hm ran hran hcaller
  refine Sat.bind hcheck fun check => ?_
  split
  next => exact fun _ _ => trivial
  next =>
    split
    next status hstatus =>
      split
      next => exact fun _ _ => trivial
      next hlive => exact fun m hm => hm (by simpa [hstatus] using hlive)
    next hstatus => exact fun m hm => hm (by simp [hstatus])

theorem unchecked_of_readsSteps {q : Stmt} (h : q.readsSteps = true) : Unchecked q := by
  cases q with
  | checkWorkflowState _ _ => cases h
  | _ => trivial

/-- A handler that keeps to the guarantee, when it has made no statement yet. -/
abbrev Careful (M : Engine Stmt Stmt.Result World Env) (i : Nat) (p : Prog Stmt Stmt.Result ε α) :
    Prop :=
  Sat M Unfound i (FoundNone i) p (fun _ _ => True) (fun _ _ => True)

theorem careful_of_unchecked {p : Prog Stmt Stmt.Result ε α} (hp : p.Uses Unchecked) : Careful M i p :=
  (sat_unchecked hp).mono (fun _ h => h) (fun _ _ _ => trivial) fun _ _ _ => trivial

theorem complete_unchecked (max : Nat) (stepId : String) (output : Bytes) :
    (StepRepository.complete max runId stepId output).Uses Unchecked :=
  complete_uses unchecked_of_readsSteps max trivial fun _ _ _ => ⟨trivial, trivial⟩

theorem careful_beginStep (req : BeginStepRequest) : Careful M i (WorkerService.beginStep cfg req) := by
  refine sat_uuid_bind (fun runId _ => ?_) fun _ _ _ => trivial
  refine Sat.bind sat_validateWorkflowAction fun _ => careful_of_unchecked ?_
  refine (uses_stmt (q := .getRetryPolicy runId) trivial).bind fun policy => ?_
  refine (Prog.uses_ofExcept _).bind fun stepKind => ?_
  refine (uses_call (begin_uses unchecked_of_readsSteps _ fun _ => ⟨trivial, trivial⟩)).bind fun result => ?_
  refine Prog.Uses.bind ?_ fun _ => trivial
  unfold WorkerService.finishSleep
  split
  next => exact uses_call (complete_unchecked _ _ _)
  next => trivial

theorem careful_completeStep (req : CompleteStepRequest) :
    Careful M i (WorkerService.completeStep cfg req) := by
  refine sat_uuid_bind (fun runId _ => ?_) fun _ _ _ => trivial
  refine Sat.bind sat_validateWorkflowAction fun ns => careful_of_unchecked ?_
  refine (uses_call (complete_unchecked _ _ _)).bind fun _ => ?_
  refine (uses_stmt (q := .listSteps runId ns req.stepId 1) trivial).bind fun rows => ?_
  exact (uses_orFail _ _).bind fun _ => trivial

/-- `fail_step` never checks. -/
theorem careful_failStep (req : FailStepRequest) : Careful M i (WorkerService.failStep cfg req) := by
  refine careful_of_unchecked (uses_uuid_bind fun runId _ => uses_requireNonEmpty_bind ?_)
  refine (uses_call (fail_uses unchecked_of_readsSteps trivial trivial fun _ _ _ =>
    ⟨trivial, trivial⟩)).bind fun result => Prog.Uses.bind ?_ fun _ => trivial
  unfold WorkerService.scheduleRetry
  split
  next => exact uses_call ((uses_sql (q := .scheduleRetry runId _) trivial).bind fun _ => trivial)
  next => trivial

/-- Another request writes no worker's steps. -/
theorem careful_of_footprint {req : Request} (h : ∀ q, req.footprint cfg q → writesSteps q = false)
    {p : Rpc Response} (hp : p.Uses (req.footprint cfg)) : Careful M i p := by
  refine (Sat.of_uses (K := fun _ => True) hp stable_true fun e q m hq _ _ => ⟨fun hwrite => ?_, trivial⟩).mono
    (fun _ _ => trivial) (fun _ _ h => h) fun _ _ h => h
  rw [h q hq] at hwrite
  cases hwrite

theorem careful_handle (req : Request) : Careful M i (handle cfg req) := by
  have hother : ∀ {req : Request}, (∀ step, req.mayInsert cfg step → step.stepKind.isWorkers = false) →
      (∀ r, req ≠ .beginStep r) → (∀ r, req ≠ .completeStep r) → (∀ r, req ≠ .failStep r) →
        Careful M i (handle cfg req) := by
    intro req hinsert hbegin hcomplete hfail
    refine careful_of_footprint (fun q hq => ?_) (handle_footprint cfg req)
    cases q with
    | supersede step => exact hinsert step hq.2
    | insertStep step => exact hinsert step hq.2
    | completeRunningStep _ _ _ =>
        obtain ⟨⟨r, rfl⟩ | ⟨r, rfl⟩, -⟩ := hq.2
        · exact absurd rfl (hcomplete r)
        · exact absurd rfl (hbegin r)
    | failRunningStep _ _ _ =>
        obtain ⟨⟨r, rfl⟩, -⟩ := hq.2
        exact absurd rfl (hfail r)
    | failLatestStep _ _ _ =>
        obtain ⟨⟨r, rfl⟩, -⟩ := hq.2
        exact absurd rfl (hfail r)
    | _ => rfl
  cases req with
  | beginStep req => exact careful_beginStep req
  | completeStep req => exact careful_completeStep req
  | failStep req => exact careful_failStep req
  | pollTask req waits =>
      exact hother (fun step h => by rw [show step.stepKind = _ from h]; rfl) (fun _ => nofun)
        (fun _ => nofun) fun _ => nofun
  | cancelWorkflow req =>
      exact hother (fun step h => by rw [h.2]; rfl) (fun _ => nofun) (fun _ => nofun) fun _ => nofun
  | completeWorkflow req =>
      exact hother (fun step h => by rw [h.2]; rfl) (fun _ => nofun) (fun _ => nofun) fun _ => nofun
  | failWorkflow req =>
      exact hother (fun step h => by rw [h.2]; rfl) (fun _ => nofun) (fun _ => nofun) fun _ => nofun
  | _ => exact hother (fun _ h => h.elim) (fun _ => nofun) (fun _ => nofun) fun _ => nofun

end Judgements

/-! ## The result -/

theorem serves (cfg : Config) :
    Serves (((service cfg).restrict Calm).restrict Lifecycle.Guarded) Unfound (fun _ => True)
      (fun _ _ _ _ => True) (fun _ _ _ _ => True) :=
  fun i req _ => ⟨FoundNone i, foundNone_stable,
    fun _ _ hfresh ran hran hcaller => absurd hcaller (hfresh ran hran), careful_handle req⟩

/-- What is known of a statement of a calm run. -/
structure Kept (w : World) (ran : Ran) (earlier : List Ran) : Prop where
  guarded : (store.restrict Lifecycle.Guarded).admits ran.caller ran.env ran.query
    ⟨store.replay w earlier, earlier⟩
  calm : Calm ran.caller ran.env ran.query ⟨store.replay w earlier, earlier⟩
  unfound : Unfound ran.caller ran.env ran.query ⟨store.replay w earlier, earlier⟩

theorem kept_of_steps {cfg : Config} {w : World} {p : ServerState}
    (h : Steps ((service cfg).restrict Calm) (.init w []) p) {later earlier : List Ran} {ran : Ran}
    (htrace : p.trace = later ++ ran :: earlier) : Kept w ran earlier := by
  obtain ⟨hguarded, -⟩ := h.sound (Lifecycle.serves cfg).restrict (fun _ _ _ _ _ _ => trivial) trivial
    (sound_nil w)
  obtain ⟨hcareful, -⟩ := hguarded.sound (serves cfg) (fun _ _ _ _ _ _ => trivial) trivial (sound_nil w)
  obtain ⟨hran, hunfound⟩ := hcareful.recalled_restrict htrace
  obtain ⟨hran, hguard⟩ := RanAt.of_restrict (M := store.restrict Calm) hran
  obtain ⟨hran, hcalm⟩ := RanAt.of_restrict (M := store) hran
  have hreplay : ((service cfg).restrict Calm |>.restrict Lifecycle.Guarded).replay w earlier =
      store.replay w earlier :=
    (Engine.restrict_replay (store.restrict Calm) Lifecycle.Guarded w earlier).trans
      (Engine.restrict_replay store Calm w earlier)
  rw [hreplay] at hunfound
  rw [Engine.restrict_replay] at hguard
  exact ⟨⟨hran.1, hguard⟩, hcalm, hunfound⟩

/-- One statement of a calm run keeps a run over, and its workers' steps as they are. -/
theorem Kept.step {w : World} {ran : Ran} {earlier : List Ran} (h : Kept w ran earlier) {runId : Uuid}
    (hover : (store.replay w earlier).Over runId) :
    (store.replay w (ran :: earlier)).Over runId ∧
      Frozen runId (store.replay w earlier) (store.replay w (ran :: earlier)) := by
  constructor
  · obtain ⟨r, hr, ht⟩ := hover
    exact ⟨r, Lifecycle.terminal_invariant ht _ _ _ _ hr h.guarded, ht⟩
  · intro s hs hrun hkind
    by_contra hnew
    obtain ⟨hsafe, htouches⟩ := touches_of_new hs hrun hkind hnew
    obtain ⟨hwrite, found, hfound, hcaller, hover'⟩ := h.calm hsafe runId htouches hover
    rw [h.unfound hwrite found hfound hcaller] at hover'
    cases hover'

/-- In the runs in which a statement finds the run of the steps that it writes not over,
unless its own request has found it over already, no worker's step of a run that is over
is added or changed. -/
theorem history_is_frozen_if_calm (cfg : Config) : HistoryFrozen ((service cfg).restrict Calm) := by
  intro w p h later mid earlier htrace runId hover
  have hrun : ∀ mid later, p.trace = later ++ (mid ++ earlier) →
      (store.replay w (mid ++ earlier)).Over runId ∧
        Frozen runId (store.replay w earlier) (store.replay w (mid ++ earlier)) := by
    intro mid
    induction mid with
    | nil => exact fun _ _ => ⟨hover, fun _ hs _ _ => hs⟩
    | cons ran mid ih =>
        intro later htrace
        obtain ⟨hbefore, hfrozen⟩ := ih (later ++ [ran]) (by simpa using htrace)
        obtain ⟨hafter, hstep⟩ := (kept_of_steps h htrace).step hbefore
        exact ⟨hafter, fun s hs hid hkind => hfrozen s (hstep s hs hid hkind) hid hkind⟩
  exact (hrun mid later htrace).2

/-- A run is terminated while its worker is at a step. -/
def terminated : List (Action Env Request) :=
  [.start (.startWorkflow ⟨"job", "queue", "type", none, "ns", "", none⟩)] ++
    runs 0 6 (.quiet 0 1) ++
  [.start (.register ⟨"ns", "queue", ["type"], "host", 7, ""⟩)] ++ runs 1 1 (.quiet 0 2) ++
  [.start (.pollTask ⟨"queue", "2", "ns", ["type"]⟩ 0)] ++ runs 2 2 (.quiet 0 3) ++
  [.start (.beginStep ⟨"ns", "1", "step", 1, none, none⟩)] ++ runs 3 7 (.quiet 0 4) ++
  [.start (.terminateWorkflow ⟨"1", "ns", "stop"⟩)] ++ runs 4 1 (.quiet 1 5)

/-- No run is over, or no step is written. -/
def Early : Condition Stmt Stmt.Result World Env := fun _ e q m =>
  (m.store.db.runs.rows.all fun r => !r.status.isTerminal) = true ∨
    (q.stepUpdate e).isNone = true ∧ q.inserted.isNone = true

instance (i : Nat) (e : Env) (q : Stmt) (m : Now) : Decidable (Early i e q m) :=
  inferInstanceAs (Decidable (_ ∨ _ ∧ _))

theorem calm_of_early {i : Nat} {e : Env} {q : Stmt} {m : Now} (h : Early i e q m) :
    Calm i e q m := by
  rintro - runId htouches ⟨r, hr, hover⟩
  rcases h with hnone | ⟨hupdate, hinsert⟩
  · have hlive := List.all_eq_true.mp hnone r (Db.mem_of_run hr)
    rw [hover] at hlive
    cases hlive
  · rcases htouches with ⟨p, f, hq, -⟩ | ⟨step, hq, -⟩
    · rw [hq] at hupdate
      cases hupdate
    · rw [hq] at hinsert
      cases hinsert

/-- The worker completes the step all the same. -/
def completedLate : ServerState :=
  fireAll (service .sample) (.init (.empty 0) [])
    (terminated ++ [.start (.completeStep ⟨"ns", "1", "step", some [7]⟩)] ++ runs 5 2 (.quiet 2 6))

theorem history_is_frozen_completedLate : (completedLate.failed 5).isSome = true ∧
    Frozen 1 (store.replay (.empty 0) (completedLate.trace.drop 2)) completedLate.store := by
  have h : Steps ((service .sample).restrict Early) (.init (.empty 0) [])
      (fireAll ((service .sample).restrict Early) (.init (.empty 0) [])
        (terminated ++ [.start (.completeStep ⟨"ns", "1", "step", some [7]⟩)] ++
          runs 5 2 (.quiet 2 6))) :=
    AllEnabled.steps (by decide +kernel)
  rw [fireAll_restrict] at h
  have hcalm : Steps ((service .sample).restrict Calm) (.init (.empty 0) []) completedLate :=
    h.restrict_mono fun _ _ _ _ => calm_of_early
  have hover : ((store.replay (.empty 0) (completedLate.trace.drop 2)).run 1).map RunRow.status =
      some .failed := by
    decide +kernel
  obtain ⟨r, hr, hs⟩ := Option.map_eq_some_iff.mp hover
  have hsplit : completedLate.trace =
      [] ++ (completedLate.trace.take 2 ++ completedLate.trace.drop 2) :=
    (List.take_append_drop 2 completedLate.trace).symm
  have hfrozen := history_is_frozen_if_calm .sample (.empty 0) completedLate hcalm _ _ _ hsplit 1
    ⟨r, hr, by rw [hs]; rfl⟩
  have hstore : completedLate.store = store.replay (.empty 0) completedLate.trace :=
    h.of_restrict.recalled.1
  rw [List.take_append_drop, ← hstore] at hfrozen
  exact ⟨by decide +kernel, hfrozen⟩

/-! ## A step of a run that is over -/

/-- The step fails after the run is over. -/
def failedLate : ServerState :=
  fireAll (service .sample) (.init (.empty 0) [])
    (terminated ++ [.start (.failStep ⟨"ns", "1", "step", none⟩)] ++ runs 5 3 (.quiet 2 6))

/-- The store before the statements of `fail_step`. -/
def beforeFailure : World := store.replay (.empty 0) (failedLate.trace.drop 3)

/-- The step of the failed run is failed, too. -/
theorem history_is_not_frozen : ¬ HistoryFrozen (service .sample) := by
  intro hfrozen
  have h : Steps (service .sample) (.init (.empty 0) []) failedLate :=
    AllEnabled.steps (by decide +kernel)
  have hover : (beforeFailure.run 1).map RunRow.status = some .failed := by decide +kernel
  obtain ⟨r, hr, hs⟩ := Option.map_eq_some_iff.mp hover
  have hnew : ∃ s ∈ (store.replay (.empty 0) (failedLate.trace.take 3 ++ failedLate.trace.drop 3)).db.steps.rows,
      s.runId = 1 ∧ s.stepKind.isWorkers = true ∧ s ∉ beforeFailure.db.steps.rows := by
    decide +kernel
  obtain ⟨s, hmem, hrun, hkind, hfresh⟩ := hnew
  have hsplit : failedLate.trace = [] ++ (failedLate.trace.take 3 ++ failedLate.trace.drop 3) :=
    (List.take_append_drop 3 failedLate.trace).symm
  exact hfresh (hfrozen _ _ h _ _ _ hsplit 1 ⟨r, hr, by rw [hs]; rfl⟩ s hmem hrun hkind)

end FrozenHistory

end Kagzi
