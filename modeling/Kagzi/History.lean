import Kagzi.Lifecycle
import Kagzi.Store.StepChange

/-!
# The history of a run

A `CompleteWorkflow`, `FailWorkflow` or `CancelWorkflow` ends in a step that
records the outcome.  Cancellation records it when its update has hit the run.
Completion and failure record it in any case, so that a run that was cancelled or
that waits for a retry in the meantime gets the step of an outcome it does not have
(`history_disagrees`).

When the update of every completion and failure finds the run running, or in the
status it is to get, the history agrees with the status
(`history_agrees_if_ready`).  Terminal rows are final, so the status is still
there when the step is recorded.
-/

namespace Kagzi

open Atomic

namespace History

/-- The server without the requests that manage schedules. -/
abbrev service (cfg : Config) : Service Stmt Stmt.Result World Env Request Status Response :=
  Lifecycle.service cfg

/-- The outcome that a step of this kind records. -/
def outcome : StepKind → Option WorkflowStatus
  | .workflowCompleted => some .completed
  | .workflowFailed => some .failed
  | .workflowCancelled => some .cancelled
  | _ => none

/-- A run that has the step of an outcome has the outcome. -/
def Agrees (w : World) : Prop :=
  ∀ s ∈ w.db.steps.rows, ∀ x, outcome s.stepKind = some x → w.HasStatus s.runId x

/-- A run has at most one of the steps that record an outcome, and it has the
outcome. -/
def HistoryAgrees (S : Service Stmt Stmt.Result World Env Request Status Response) : Prop :=
  ∀ (w : World) (p : ServerState), Agrees w → Steps S (.init w []) p →
    Agrees p.store ∧
    ∀ s ∈ p.store.db.steps.rows, ∀ s' ∈ p.store.db.steps.rows, s.runId = s'.runId →
      (outcome s.stepKind).isSome = true → (outcome s'.stepKind).isSome = true →
      s.stepKind = s'.stepKind

/-- The caller has looked at something. -/
def Looked (i : Nat) (m : Now) : Prop := ∃ ran ∈ m.trace, ran.caller = i

/-- The update of a completion or a failure finds the run running, or in the status
it is to get.  A failure has looked at the run before.  A termination, which makes
the same update, has not, and it records nothing. -/
def Ready : Condition Stmt Stmt.Result World Env := fun i _ q m =>
  match q with
  | .completeRun runId _ => m.store.HasStatus runId .running ∨ m.store.HasStatus runId .completed
  | .setFailed runId _ => Looked i m →
      m.store.HasStatus runId .running ∨ m.store.HasStatus runId .failed
  | _ => True

instance (i : Nat) (m : Now) : Decidable (Looked i m) :=
  inferInstanceAs (Decidable (∃ ran ∈ m.trace, _))

instance (i : Nat) (e : Env) (q : Stmt) (m : Now) : Decidable (Ready i e q m) := by
  unfold Ready
  split <;> infer_instance

/-! ## Outcomes are final -/

abbrev engine : Engine Stmt Stmt.Result World Env :=
  (store.restrict Ready).restrict Lifecycle.Guarded

/-- A step that records an outcome is inserted while the run has the outcome. -/
def Recorded : Condition Stmt Stmt.Result World Env := fun _ _ q m =>
  ∀ step, q.inserted = some step → ∀ x, outcome step.stepKind = some x →
    m.store.HasStatus step.runId x

theorem outcome_isTerminal {kind : StepKind} {x : WorkflowStatus} (h : outcome kind = some x) :
    x.isTerminal = true := by
  cases kind <;> cases h <;> rfl

/-- Two steps that record the same outcome are of one kind. -/
theorem outcome_injective {kind kind' : StepKind} {x : WorkflowStatus} (h : outcome kind = some x)
    (h' : outcome kind' = some x) : kind = kind' := by
  cases kind <;> cases h <;> cases kind' <;> cases h' <;> rfl

theorem hasStatus_invariant {runId : Uuid} {x : WorkflowStatus} (hx : x.isTerminal = true) :
    Invariant engine fun m => m.store.HasStatus runId x :=
  fun i e q m hm ha => Lifecycle.hasStatus_invariant hx i e q m hm ⟨ha.1.1, ha.2⟩

theorem agrees_invariant : Invariant (engine.restrict Recorded) fun m => Agrees m.store := by
  intro i e q m hm ha s hs x hx
  have hstays : m.store.HasStatus s.runId x → (m.after engine i e q).store.HasStatus s.runId x :=
    fun h => hasStatus_invariant (outcome_isTerminal hx) i e q m h ha.1
  cases Stmt.exec_attempt hs with
  | kept hmem => exact hstays (hm s hmem x hx)
  | @updated s₀ _ _ hmem hq hp =>
      have hsame := Stmt.stepUpdate_keeps hq s₀
      rw [hsame.stepKind] at hx
      rw [hsame.runId] at hstays ⊢
      exact hstays (hm _ hmem x hx)
  | inserted hq => exact hstays (ha.2 _ hq x hx)

/-- Under agreement a run has at most one step that records an outcome. -/
theorem Agrees.unique {w : World} (h : Agrees w) {s s' : StepRow} (hs : s ∈ w.db.steps.rows)
    (hs' : s' ∈ w.db.steps.rows) (hrun : s.runId = s'.runId)
    (hx : (outcome s.stepKind).isSome = true) (hx' : (outcome s'.stepKind).isSome = true) :
    s.stepKind = s'.stepKind := by
  obtain ⟨x, hx⟩ := Option.isSome_iff_exists.mp hx
  obtain ⟨x', hx'⟩ := Option.isSome_iff_exists.mp hx'
  obtain ⟨r, hr, rfl⟩ := h s hs x hx
  obtain ⟨r', hr', rfl⟩ := h s' hs' x' hx'
  rw [hrun, hr'] at hr
  rw [← Option.some.inj hr] at hx
  exact outcome_injective hx hx'

/-! ## Requests that record no outcome -/

/-- A statement that inserts no step of an outcome. -/
def Harmless (q : Stmt) : Prop :=
  ∀ step, q.inserted = some step → outcome step.stepKind = none

theorem harmless_of_none {q : Stmt} (h : q.inserted = none) : Harmless q := by
  intro step hstep
  rw [h] at hstep
  cases hstep

theorem harmless_of_readsSteps {q : Stmt} (h : q.readsSteps = true) : Harmless q := by
  cases q with
  | supersede _ => cases h
  | insertStep _ => cases h
  | _ => exact harmless_of_none rfl

theorem allowsInsert_harmless {step : NewStep} (h : outcome step.stepKind = none) :
    AllowsInsert Harmless step :=
  ⟨fun _ hq => Option.some.inj hq ▸ h, fun _ hq => Option.some.inj hq ▸ h⟩

/-- The request inserts no step of which the kind depends on what it has read. -/
def insertsPlainly : Request → Bool
  | .beginStep _ => false
  | .completeStep _ => false
  | .failStep _ => false
  | .cancelWorkflow _ => false
  | .completeWorkflow _ => false
  | .failWorkflow _ => false
  | _ => true

theorem harmless_of_footprint {cfg : Config} {req : Request} (h : insertsPlainly req = true)
    {q : Stmt} (hq : req.footprint cfg q) : Harmless q := by
  have hkind : ∀ step, req.mayInsert cfg step → outcome step.stepKind = none := by
    intro step hstep
    cases req with
    | pollTask _ _ => rw [show step.stepKind = .workflowStarted from hstep]; rfl
    | beginStep _ => cases h
    | completeStep _ => cases h
    | failStep _ => cases h
    | cancelWorkflow _ => cases h
    | completeWorkflow _ => cases h
    | failWorkflow _ => cases h
    | _ => exact hstep.elim
  cases q with
  | supersede step => exact (allowsInsert_harmless (hkind step hq.2)).1
  | insertStep step => exact (allowsInsert_harmless (hkind step hq.2)).2
  | _ => exact harmless_of_none rfl

section Judgements
variable {cfg : Config} {i : Nat} {runId : Uuid} {ε α : Type}

/-- The program records no outcome that its run does not have, whenever it starts. -/
abbrev Faithful (i : Nat) (p : Prog Stmt Stmt.Result ε α) : Prop :=
  Sat engine Recorded i (fun _ => True) p (fun _ _ => True) (fun _ _ => True)

theorem recorded_of_harmless {e : Env} {q : Stmt} {m : Now} (hq : Harmless q) :
    Recorded i e q m := by
  intro step hstep x hx
  rw [hq step hstep] at hx
  cases hx

theorem faithful_of_uses {p : Prog Stmt Stmt.Result ε α} (hp : p.Uses Harmless) : Faithful i p :=
  Sat.of_uses hp stable_true fun _ _ _ hq _ _ => ⟨recorded_of_harmless hq, trivial⟩

theorem sat_latestStepKindStrict (stepId : String) :
    Sat engine Recorded i (fun _ => True) (StepRepository.latestStepKindStrict runId stepId)
      (fun kind _ => outcome kind = none) (fun _ _ => True) := by
  refine Sat.bind (sat_sql (L := fun found _ => ∀ kind, found = some kind → outcome kind = none)
    (fun _ => stable_const) fun e m _ _ => ⟨recorded_of_harmless (harmless_of_none rfl), ?_⟩) fun found => ?_
  · intro found hfound kind hkind
    subst hkind
    have hstmt : ((Stmt.latestStepKind runId stepId).exec e m.store.db).1 = .ok (some kind) := hfound
    rw [Stmt.exec_ok hstmt] at hstmt
    obtain ⟨r, -, hr⟩ := Option.map_eq_some_iff.mp (Except.ok.inj hstmt)
    split at hr <;> exact hr ▸ rfl
  · cases found with
    | none => exact fun _ _ => trivial
    | some kind => exact fun _ h => h kind rfl

theorem faithful_complete (max : Nat) (stepId : String) (output : Bytes) :
    Faithful i (StepRepository.complete max runId stepId output) := by
  refine Sat.bind (faithful_of_uses (Prog.uses_ofExcept _)) fun _ => ?_
  refine Sat.bind (sat_latestStepKindStrict stepId) fun stepKind => ?_
  refine Sat.start (Sat.of_fact fun hkind => ?_) fun m h => ⟨h, trivial⟩
  refine faithful_of_uses (Prog.Uses.bind (uses_sql (harmless_of_none rfl)) fun hit => ?_)
  cases hit with
  | true => trivial
  | false =>
      refine Prog.Uses.bind (uses_sql (harmless_of_none rfl)) fun found => ?_
      split
      next => trivial
      next =>
        exact Prog.Uses.bind (uses_sql (harmless_of_none rfl)) fun _ =>
          replaceLatest_uses (allowsInsert_harmless hkind)

theorem faithful_failForGood (params : FailStepParams) :
    Faithful i (StepRepository.failForGood params) := by
  refine Sat.bind (sat_latestStepKindStrict _) fun stepKind => ?_
  refine Sat.start (Sat.of_fact fun hkind => ?_) fun m h => ⟨h, trivial⟩
  refine faithful_of_uses (Prog.Uses.bind (uses_sql (harmless_of_none rfl)) fun hit => ?_)
  cases hit with
  | true => trivial
  | false =>
      exact Prog.Uses.bind (uses_sql (harmless_of_none rfl)) fun _ =>
        Prog.Uses.bind (replaceLatest_uses (allowsInsert_harmless hkind)) fun _ => trivial

theorem faithful_fail (params : FailStepParams) : Faithful i (StepRepository.fail params) := by
  refine Sat.bind (faithful_of_uses (uses_sql (harmless_of_none rfl))) fun found => ?_
  cases found with
  | none => exact faithful_failForGood params
  | some info =>
      dsimp only
      split
      next =>
        refine Sat.bind (faithful_of_uses ?_) fun ms =>
          faithful_of_uses (Prog.Uses.bind (uses_sql (harmless_of_none rfl)) fun _ => trivial)
        unfold StepRepository.retryDelayMs
        split
        next => trivial
        next => exact Prog.Uses.bind (uses_sql (harmless_of_none rfl)) fun _ => trivial
      next => exact faithful_failForGood params

theorem faithful_call {f : Store α} (h : Faithful i f) : Faithful i (call f) :=
  h.mapError fun _ _ _ => trivial

theorem validateWorkflowAction_harmless (cfg : Config) (runId : Uuid) :
    (WorkerService.validateWorkflowAction cfg runId).Uses Harmless :=
  (validateWorkflowAction_uses cfg (.drainWorker "") runId).mono fun _ hq =>
    harmless_of_footprint rfl hq

theorem faithful_beginStep (req : BeginStepRequest) :
    Faithful i (WorkerService.beginStep cfg req) := by
  refine sat_uuid_bind (fun runId _ => ?_) fun _ _ _ => trivial
  refine Sat.bind (faithful_of_uses (validateWorkflowAction_harmless cfg runId)) fun _ => ?_
  refine Sat.bind (faithful_of_uses (uses_stmt (harmless_of_none rfl))) fun policy => ?_
  refine Sat.ofExcept_bind (fun stepKind hkind => ?_) fun _ _ _ => trivial
  have hplain : outcome stepKind = none := by
    unfold WorkerService.mapProtoStepKind at hkind
    split_ifs at hkind <;> cases hkind <;> rfl
  refine Sat.bind (faithful_of_uses (uses_call (begin_uses harmless_of_readsSteps _
    fun _ => allowsInsert_harmless hplain))) fun result => ?_
  have hfinish : Faithful i (WorkerService.finishSleep cfg runId req.stepName stepKind result) := by
    unfold WorkerService.finishSleep
    split
    next => exact faithful_call (faithful_complete _ _ _)
    next => exact fun _ _ => trivial
  exact Sat.bind hfinish fun _ _ _ => trivial

theorem faithful_completeStep (req : CompleteStepRequest) :
    Faithful i (WorkerService.completeStep cfg req) := by
  refine sat_uuid_bind (fun runId _ => ?_) fun _ _ _ => trivial
  refine Sat.bind (faithful_of_uses (validateWorkflowAction_harmless cfg runId)) fun ns => ?_
  refine Sat.bind (faithful_call (faithful_complete _ _ _)) fun _ => ?_
  exact faithful_of_uses (Prog.Uses.bind (uses_stmt (harmless_of_none rfl)) fun rows =>
    (uses_orFail _ _).bind fun _ => trivial)

theorem faithful_failStep (req : FailStepRequest) :
    Faithful i (WorkerService.failStep cfg req) := by
  refine sat_uuid_bind (fun runId _ => ?_) fun _ _ _ => trivial
  refine sat_requireNonEmpty_bind ?_ fun _ _ _ => trivial
  refine Sat.bind (faithful_call (faithful_fail _)) fun result => faithful_of_uses ?_
  refine Prog.Uses.bind ?_ fun _ => trivial
  unfold WorkerService.scheduleRetry
  split
  next => exact uses_call (Prog.Uses.bind (uses_sql (harmless_of_none rfl)) fun _ => trivial)
  next => trivial

/-! ## Requests that end a run -/

/-- The record of an outcome that the run has. -/
theorem sat_record {kind : StepKind} {x : WorkflowStatus} (hx : outcome kind = some x)
    (max : Nat) (utf8 : Bytes → Option String) (output : Option Bytes) (resp : Response) :
    Sat engine Recorded i (fun m => m.store.HasStatus runId x)
      (do
        let _ ← (StepRepository.recordLifecycleEvent max utf8 runId kind output).attempt
        pure resp : Rpc Response) (fun _ _ => True) (fun _ _ => True) := by
  let own : Stmt → Prop := fun q =>
    ∀ step, q.inserted = some step → step.runId = runId ∧ step.stepKind = kind
  have hread : ∀ {q : Stmt}, q.inserted = none → own q := by
    intro q hq step hstep
    rw [hq] at hstep
    cases hstep
  have huses : (StepRepository.recordLifecycleEvent max utf8 runId kind output).Uses own := by
    refine recordLifecycleEvent_uses ?_ _ _ _ (fun _ _ _ _ => hread rfl) fun step hrun _ hkind => ?_
    · intro q hq
      cases q with
      | supersede _ => cases hq
      | insertStep _ => cases hq
      | _ => exact hread rfl
    · constructor
      all_goals
        intro _ hq
        exact Option.some.inj hq ▸ ⟨hrun, hkind⟩
  have hstatus : Invariant engine fun m => m.store.HasStatus runId x :=
    hasStatus_invariant (outcome_isTerminal hx)
  have hsat : Sat engine Recorded i (fun m => m.store.HasStatus runId x)
      (StepRepository.recordLifecycleEvent max utf8 runId kind output)
      (fun _ m => m.store.HasStatus runId x) (fun _ m => m.store.HasStatus runId x) := by
    refine Sat.of_uses huses hstatus.restrict.stable fun e q m hq hm ha => ⟨?_, ?_⟩
    · intro step hstep y hy
      obtain ⟨hrun, hkind⟩ := hq step hstep
      rw [hkind, hx] at hy
      rw [hrun, ← Option.some.inj hy]
      exact hm
    · exact hstatus i e q m hm ha
  exact Sat.bind (hsat.attempt (R := fun _ _ => True) (fun _ _ _ => trivial)
    fun _ _ _ => trivial) fun _ => Sat.ret fun _ _ => trivial

/-- The update of a call that leaves its run in a terminal status. -/
theorem sat_end (runId : Uuid) {q : Stmt} {x : WorkflowStatus} {K : Now → Prop}
    {P : q.Ans → Prop} (hq : q.inserted = none) (hx : x.isTerminal = true)
    (h : ∀ e m a, K m → engine.admits i e q m → (q.exec e m.store.db).1 = .ok a → P a →
      ∃ r, (q.exec e m.store.db).2.run runId = some r ∧ r.status = x) :
    Sat engine Recorded i K (sql q) (fun a m => P a → m.store.HasStatus runId x)
      (fun _ _ => True) := by
  refine sat_sql (fun a => .imp fun _ => (hasStatus_invariant hx).restrict.stable) fun e m hm ha =>
    ⟨recorded_of_harmless (harmless_of_none hq), fun a hres hP => ?_⟩
  exact h e m a hm ha hres hP

/-- An update that is ready leaves its run in the status it is to get. -/
theorem hasStatus_of_ready {old new : Option RunRow} {f : RunRow → RunRow} {x : WorkflowStatus}
    (hf : ∀ r, (f r).status = x)
    (hnew : new = old.map fun r => if r.status = .running then f r else r)
    (h : (∃ r, old = some r ∧ r.status = .running) ∨ ∃ r, old = some r ∧ r.status = x) :
    ∃ r, new = some r ∧ r.status = x := by
  rcases h with ⟨r, rfl, hs⟩ | ⟨r, rfl, hs⟩
  · exact ⟨f r, by simp [hnew, hs], hf r⟩
  · by_cases hrunning : r.status = .running
    · exact ⟨f r, by simp [hnew, hrunning], hf r⟩
    · exact ⟨r, by simp [hnew, hrunning], hs⟩

theorem sat_completeRun (max : Nat) (output : Bytes) :
    Sat engine Recorded i (fun _ => True) (WorkflowRepository.complete max runId output)
      (fun _ m => m.store.HasStatus runId .completed) (fun _ _ => True) := by
  refine Sat.bind (faithful_of_uses (Prog.uses_ofExcept _)) fun _ => ?_
  refine Sat.bind (sat_end runId (x := .completed) (P := fun _ => True) rfl rfl ?_) fun hit => ?_
  · intro e m a _ ha hres _
    have hexec := Stmt.exec_ok hres
    rw [hexec] at hres ⊢
    exact hasStatus_of_ready (fun _ => rfl) (completeRun_ok hres) ha.1.2
  · have hstatus : Invariant engine fun m => m.store.HasStatus runId .completed :=
      hasStatus_invariant rfl
    refine Sat.start ?_ fun m (h : True → _) => h trivial
    split
    next => exact fun _ h => h
    next =>
      have huses : (sql (.setOutput runId output)).Uses fun q => q.inserted = none := uses_sql rfl
      refine (Sat.of_uses huses hstatus.restrict.stable fun e q m hq hm ha => ?_).mono
        (fun _ h => h) (fun _ _ h => h) fun _ _ _ => trivial
      exact ⟨recorded_of_harmless (harmless_of_none hq), hstatus i e q m hm ha⟩

theorem faithful_completeWorkflow (req : CompleteWorkflowRequest) :
    Faithful i (WorkerService.completeWorkflow cfg req) := by
  refine sat_uuid_bind (fun runId _ => ?_) fun _ _ _ => trivial
  refine Sat.bind (faithful_of_uses (validateWorkflowAction_harmless cfg runId)) fun _ => ?_
  refine Sat.bind ((sat_completeRun _ _).mapError fun _ _ _ => trivial) fun _ => ?_
  exact sat_record rfl _ _ _ _

/-- Once a caller has looked, it has looked. -/
theorem looked_invariant : Invariant engine (Looked i) := by
  rintro j e q m ⟨ran, hran, hcaller⟩ -
  exact ⟨ran, List.mem_cons_of_mem _ hran, hcaller⟩

theorem sat_validateWorkflowAction :
    Sat engine Recorded i (fun _ => True) (WorkerService.validateWorkflowAction cfg runId)
      (fun _ => Looked i) (fun _ _ => True) := by
  refine Sat.bind ((sat_sql (L := fun _ => Looked i) (fun _ => looked_invariant.restrict.stable)
    fun e m _ _ => ?_).mapError fun _ _ _ => trivial) fun found => ?_
  · exact ⟨recorded_of_harmless (harmless_of_none rfl), fun _ _ => ⟨_, List.mem_cons_self .., rfl⟩⟩
  have hrest := (validateWorkflowAction_harmless cfg runId).2 (.ok found)
  refine (Sat.of_uses hrest looked_invariant.restrict.stable fun e q m hq hm ha =>
    ⟨recorded_of_harmless hq, looked_invariant i e q m hm ha⟩).mono (fun _ h => h)
    (fun _ _ h => h) fun _ _ _ => trivial

theorem sat_failRun (error : String) :
    Sat engine Recorded i (Looked i) (WorkflowRepository.fail runId error)
      (fun _ m => m.store.HasStatus runId .failed) (fun _ _ => True) := by
  refine Sat.bind (sat_end runId (x := .failed) (P := fun _ => True) rfl rfl ?_) fun _ _ h => h trivial
  intro e m a hm ha hres _
  have hexec := Stmt.exec_ok hres
  rw [hexec] at hres ⊢
  exact hasStatus_of_ready (fun _ => rfl) (updateAt_ok (fun _ _ => rfl) hres) (ha.1.2 hm)

theorem faithful_failWorkflow (req : FailWorkflowRequest) :
    Faithful i (WorkerService.failWorkflow cfg req) := by
  refine sat_uuid_bind (fun runId _ => ?_) fun _ _ _ => trivial
  refine Sat.bind sat_validateWorkflowAction fun _ => ?_
  refine Sat.bind ((sat_failRun _).mapError fun _ _ _ => trivial) fun _ => ?_
  exact sat_record rfl _ _ _ _

/-- An update of `cancel` that hits. -/
theorem cancel_hit {e : Env} {db : Db} {ns : String} {s : WorkflowStatus → Bool}
    {p : RunRow → Bool} (hp : p = fun r => r.runId = runId && r.ns = ns && s r.status)
    (h : (db.commitRuns p (RunRow.cancel e.began) (db.runs.rows.any p)).1 = .ok true) :
    ∃ r, (db.commitRuns p (RunRow.cancel e.began) (db.runs.rows.any p)).2.run runId = some r ∧
      r.status = .cancelled := by
  have hid : ∀ r, p r = true → r.runId = runId := by
    intro r hr
    simp only [hp, Bool.and_eq_true, decide_eq_true_eq] at hr
    exact hr.1.1
  obtain ⟨r, -, -, hr⟩ := Db.commitRuns_hit (f := RunRow.cancel e.began) (fun _ => rfl) hid h
  exact ⟨_, hr, rfl⟩

theorem sat_cancel (ns : String) :
    Sat engine Recorded i (fun _ => True) (WorkflowRepository.cancel runId ns)
      (fun hit m => hit = true → m.store.HasStatus runId .cancelled) (fun _ _ => True) := by
  refine Sat.bind (sat_end runId (x := .cancelled) (P := fun hit => hit = true) rfl rfl ?_)
    fun hit => ?_
  · rintro e m hit _ - hres rfl
    have hexec := Stmt.exec_ok hres
    rw [hexec] at hres ⊢
    exact cancel_hit (s := fun s => s = .running) rfl hres
  · cases hit with
    | true => exact fun _ h _ => h rfl
    | false =>
        refine Sat.start (K := fun _ => True) ?_ fun _ _ => trivial
        refine sat_end runId (q := .cancelWaiting runId ns) (x := .cancelled)
          (P := fun hit => hit = true) rfl rfl ?_
        rintro e m hit _ - hres rfl
        have hexec := Stmt.exec_ok hres
        rw [hexec] at hres ⊢
        exact cancel_hit (s := fun s => s = .pending || s = .sleeping) rfl hres

theorem faithful_cancelWorkflow (req : CancelWorkflowRequest) :
    Faithful i (WorkflowService.cancelWorkflow cfg req) := by
  refine sat_uuid_bind (fun runId _ => ?_) fun _ _ _ => trivial
  refine sat_requireNonEmpty_bind ?_ fun _ _ _ => trivial
  refine Sat.bind ((sat_cancel req.ns).mapError fun _ _ _ => trivial) fun hit => ?_
  cases hit with
  | true => exact (sat_record rfl _ _ _ _).start fun m h => h rfl
  | false =>
      refine Sat.start (K := fun _ => True) ?_ fun _ _ => trivial
      refine faithful_of_uses (Prog.Uses.bind (uses_stmt (harmless_of_none rfl)) fun found => ?_)
      split <;> trivial

end Judgements

/-! ## The result -/

theorem faithful_handle (cfg : Config) (i : Nat) (req : Request) :
    Faithful i (handle cfg req) := by
  cases hplain : insertsPlainly req with
  | true =>
      exact faithful_of_uses ((handle_footprint cfg req).mono fun _ hq =>
        harmless_of_footprint hplain hq)
  | false =>
  cases req with
  | beginStep req => exact faithful_beginStep req
  | completeStep req => exact faithful_completeStep req
  | failStep req => exact faithful_failStep req
  | cancelWorkflow req => exact faithful_cancelWorkflow req
  | completeWorkflow req => exact faithful_completeWorkflow req
  | failWorkflow req => exact faithful_failWorkflow req
  | _ => cases hplain

/-- The history agrees with the status in the runs in which the update of every
completion and failure finds the run running, or in the status it is to get. -/
theorem history_agrees_if_ready (cfg : Config) :
    HistoryAgrees ((service cfg).restrict Ready) := by
  intro w p hw h
  have htrue : Invariant (((service cfg).restrict Ready).toEngine.restrict Lifecycle.Guarded)
      fun _ => True := fun _ _ _ _ _ _ => trivial
  obtain ⟨hguarded, -⟩ := h.sound (Lifecycle.serves cfg).restrict htrue trivial (sound_nil w)
  have hserve : Serves (((service cfg).restrict Ready).restrict Lifecycle.Guarded) Recorded
      (fun m => Agrees m.store) (fun _ _ _ _ => True) (fun _ _ _ _ => True) :=
    fun i req _ => ⟨fun _ => True, stable_true, fun _ _ _ => trivial, faithful_handle cfg i req⟩
  obtain ⟨hrecorded, -⟩ := hguarded.sound hserve agrees_invariant hw (sound_nil w)
  have hagrees := hrecorded.invariant agrees_invariant hw
  exact ⟨hagrees, fun s hs s' hs' hrun hx hx' => hagrees.unique hs hs' hrun hx hx'⟩

/-! ## A completion in time -/

/-- The kinds of the steps of a run. -/
def kinds (w : World) (runId : Uuid) : List StepKind :=
  (w.db.steps.rows.filter fun s => s.runId = runId).map StepRow.stepKind

theorem exists_of_kinds {w : World} {runId : Uuid} {kind : StepKind} (h : kind ∈ kinds w runId) :
    ∃ s ∈ w.db.steps.rows, s.runId = runId ∧ s.stepKind = kind := by
  simp only [kinds, List.mem_map, List.mem_filter, decide_eq_true_eq] at h
  obtain ⟨s, ⟨hs, hrun⟩, hkind⟩ := h
  exact ⟨s, hs, hrun, hkind⟩

/-- A worker completes its run, and then somebody tries to cancel it. -/
def cancelledTooLate : ServerState :=
  fireAll ((service .sample).restrict Ready) (.init (.empty 0) []) <|
    [.start (.startWorkflow ⟨"job", "queue", "type", none, "ns", "", none⟩)] ++
      runs 0 6 (.quiet 0 1) ++
      [.start (.register ⟨"ns", "queue", ["type"], "host", 7, ""⟩)] ++ runs 1 1 (.quiet 0 2) ++
      [.start (.pollTask ⟨"queue", "2", "ns", ["type"]⟩ 0)] ++ runs 2 7 (.quiet 0 3) ++
      [.start (.completeWorkflow ⟨"ns", "1", none⟩)] ++ runs 3 7 (.quiet 1 4) ++
      [.start (.cancelWorkflow ⟨"1", "ns"⟩)] ++ runs 4 3 (.quiet 2 5)

/-- The completion is all that the history records. -/
theorem history_agrees_if_ready_cancelledTooLate :
    kinds cancelledTooLate.store 1 = [.workflowStarted, .workflowCompleted] ∧
      cancelledTooLate.store.HasStatus 1 .completed := by
  have hsteps : Steps ((service .sample).restrict Ready) (.init (.empty 0) []) cancelledTooLate :=
    AllEnabled.steps (by decide +kernel)
  have hkinds : kinds cancelledTooLate.store 1 = [.workflowStarted, .workflowCompleted] := by
    decide +kernel
  have hempty : Agrees (.empty 0) := by
    intro s hs
    cases hs
  have hcompleted : .workflowCompleted ∈ kinds cancelledTooLate.store 1 := by rw [hkinds]; simp
  obtain ⟨s, hs, hrun, hkind⟩ := exists_of_kinds hcompleted
  have hagrees := (history_agrees_if_ready .sample (.empty 0) _ hempty hsteps).1
  exact ⟨hkinds, hrun ▸ hagrees s hs .completed (by rw [hkind]; rfl)⟩

/-! ## Two outcomes of one run -/

/-- A run that still waits is completed, and then cancelled. -/
def completedThenCancelled : List (Action Env Request) :=
  [.start (.startWorkflow ⟨"job", "queue", "type", none, "ns", "", none⟩)] ++ runs 0 6 (.quiet 0 1) ++
    [.start (.completeWorkflow ⟨"ns", "1", none⟩)] ++ runs 1 8 (.quiet 5 2) ++
    [.start (.cancelWorkflow ⟨"1", "ns"⟩)] ++ runs 2 6 (.quiet 6 3)

/-- The run has been completed and cancelled. -/
theorem history_disagrees : ¬ HistoryAgrees (service .sample) := by
  intro hagrees
  let p := fireAll (service .sample) (.init (.empty 0) []) completedThenCancelled
  have h : Steps (service .sample) (.init (.empty 0) []) p := AllEnabled.steps (by decide +kernel)
  have hempty : Agrees (.empty 0) := by
    intro s hs
    cases hs
  have hkinds : kinds p.store 1 = [.workflowCompleted, .workflowCancelled] := by decide +kernel
  have hcompleted : .workflowCompleted ∈ kinds p.store 1 := by rw [hkinds]; simp
  have hcancelled : .workflowCancelled ∈ kinds p.store 1 := by rw [hkinds]; simp
  obtain ⟨s, hs, hrun, hkind⟩ := exists_of_kinds hcompleted
  obtain ⟨s', hs', hrun', hkind'⟩ := exists_of_kinds hcancelled
  have hsame := (hagrees (.empty 0) p hempty h).2 s hs s' hs' (hrun.trans hrun'.symm)
    (by rw [hkind]; rfl) (by rw [hkind']; rfl)
  rw [hkind, hkind'] at hsame
  cases hsame

end History

end Kagzi
