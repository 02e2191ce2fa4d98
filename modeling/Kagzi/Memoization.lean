import Kagzi.Server.Service
import Kagzi.Store.StepChange

/-!
# Memoization of steps

Once the latest attempt of a step is `COMPLETED`, its output is meant to stay,
and every later `BeginStep` to return it.  Four writes do not look at the status
of the attempt they write over: the update of the retry branch of `fail`, the
demotion of the latest attempt in `begin`, `complete` and `fail`, and the
lifecycle record.  They break the memo (`not_memoized`).  In a run in which none
of them writes another result over a completed attempt, the memo is kept
(`memoized_unless_overwritten`).
-/

namespace Kagzi

open Atomic

namespace Memoization

/-- The server, for all requests. -/
abbrev service (cfg : Config) : Service Stmt Stmt.Result World Env Request Status Response :=
  server cfg fun _ => True

/-- The latest attempt of the step is completed, with this output. -/
abbrev Memo (runId : Uuid) (stepId : String) (output : Option Bytes) (w : World) : Prop :=
  w.db.HasLatest runId stepId .completed output

/-- A completed attempt stays, with its output, and a `BeginStep` that arrives
later returns the output and tells the worker not to execute the step. -/
def Memoized (cfg : Config)
    (S : Service Stmt Stmt.Result World Env Request Status Response) : Prop :=
  ∀ (w : World) (p p' : ServerState) (runId : Uuid) (stepId : String) (output : Option Bytes),
    Steps S (.init w []) p → Memo runId stepId output p.store → Steps S p p' →
    Memo runId stepId output p'.store ∧
      ∀ i req resp, p.calls.length ≤ i → p'.calls[i]? = some (.beginStep req, .ret resp) →
        cfg.parseUuid req.runId = some runId → req.stepName = stepId →
        resp = .beginStep stepId false (bytesToPayload output)

/-- The result agrees with an attempt that is completed. -/
def Agrees (row : StepRow) (status : StepStatus) (output : Option Bytes) : Prop :=
  row.status = .completed → status = .completed ∧ output = row.output

instance (row : StepRow) (status : StepStatus) (output : Option Bytes) :
    Decidable (Agrees row status output) :=
  inferInstanceAs (Decidable (_ → _))

/-- A write that does not look at the status puts no other result over a
completed attempt. -/
def Respects : Condition Stmt Stmt.Result World Env := fun _ _ q m =>
  match q with
  | .failLatestStep runId stepId _ =>
      ∀ row ∈ m.store.latest runId stepId, Agrees row .failed none
  | .supersede step =>
      ∀ row ∈ m.store.latest step.runId step.stepId, Agrees row step.status step.output
  | .recordLatestStep runId stepId status output _ =>
      ∀ row ∈ m.store.latest runId stepId, Agrees row status output
  | _ => True

instance (i : Nat) (e : Env) (q : Stmt) (m : Now) : Decidable (Respects i e q m) := by
  unfold Respects
  split <;> infer_instance

/-! ## The memo is kept -/

theorem memo_invariant (runId : Uuid) (stepId : String) (output : Option Bytes) :
    Invariant (store.restrict Respects) fun m => Memo runId stepId output m.store := by
  rintro i e q m ⟨row, hrow, hs, ho⟩ ⟨-, hq⟩
  have hc := q.exec_step e m.store.db runId stepId
  obtain ⟨hrun, hstep, -⟩ := isLatestOf_iff.mp (Db.isLatestOf_of_latest hrow)
  have hrow' : m.store.latest row.runId row.stepId = some row := by
    rw [hrun, hstep]
    exact hrow
  rw [show m.store.db.latest runId stepId = some row from hrow] at hc
  cases hnew : (q.exec e m.store.db).2.latest runId stepId with
  | none => rw [hnew] at hc; cases hc
  | some new =>
      obtain ⟨hrun', hstep', -⟩ := isLatestOf_iff.mp (Db.isLatestOf_of_latest hnew)
      refine ⟨new, hnew, ?_⟩
      rw [hnew] at hc
      cases hc with
      | same => exact ⟨hs, ho⟩
      | @superseded step ns n =>
          have hkey : m.store.latest step.runId step.stepId = some row := by
            rw [show step.runId = runId from hrun', show step.stepId = stepId from hstep']
            exact hrow
          obtain ⟨hstatus, houtput⟩ := hq row hkey hs
          exact ⟨hstatus, houtput.trans ho⟩
      | completed h => rw [hs] at h; cases h
      | failed h => rw [hs] at h; cases h
      | failedLatest => cases (hq row hrow' hs).1
      | woken _ h => rw [hs] at h; cases h
      | recorded =>
          obtain ⟨hstatus, houtput⟩ := hq row hrow' hs
          exact ⟨hstatus, houtput.trans ho⟩

/-! ## Later requests return it -/

section BeginStep
variable {M : Engine Stmt Stmt.Result World Env} {Γ : Condition Stmt Stmt.Result World Env}
variable {i : Nat} {runId : Uuid} {stepId : String} {output : Option Bytes}

theorem latestStep_of_memo {e : Env} {m : Now} {a : Option ExistingStep}
    (hm : Memo runId stepId output m.store)
    (ha : (store.exec e (.latestStep runId stepId) m.store).1 = .ok a) :
    a = some ⟨.completed, output⟩ := by
  obtain ⟨row, hrow, hs, ho⟩ := hm
  rw [store_exec_fst, Stmt.exec_ok ha] at ha
  have hval : (m.store.db.latest runId stepId).map (fun r => ExistingStep.mk r.status r.output) = a :=
    Except.ok.inj ha
  rw [← hval, show m.store.db.latest runId stepId = some row from hrow, Option.map_some, hs, ho]

/-- While the memo holds, `begin` returns it. -/
theorem sat_begin (hexec : M.exec = store.exec) (hΓ : ∀ e q m, Γ i e q m)
    (hinv : Invariant (M.restrict Γ) fun m => Memo runId stepId output m.store) (max : Nat)
    (params : BeginStepParams) (hrun : params.runId = runId) (hstep : params.stepId = stepId) :
    Sat M Γ i (fun m => Memo runId stepId output m.store) (StepRepository.begin max params)
      (fun result m => result = ⟨false, output⟩ ∧ Memo runId stepId output m.store)
      (fun _ _ => True) := by
  subst hrun hstep
  refine Sat.bind ((Sat.of_invariant hΓ hinv).mono (fun _ h => h) (fun _ _ h => h)
    (fun _ _ _ => trivial)) fun _ => ?_
  have hread : Sat M Γ i (fun m => Memo params.runId params.stepId output m.store)
      (sql (.latestStep params.runId params.stepId))
      (fun found m => found = some ⟨.completed, output⟩ ∧
        Memo params.runId params.stepId output m.store) (fun _ _ => True) := by
    refine sat_sql (fun a => stable_const.and hinv.stable) fun e m hm ha => ⟨hΓ e _ m, ?_⟩
    intro a hres
    rw [hexec] at hres
    exact ⟨latestStep_of_memo hm hres, hinv i e _ m hm ⟨ha, hΓ e _ m⟩⟩
  refine Sat.bind hread fun found => Sat.of_fact fun hfound => ?_
  subst hfound
  exact fun m hm => ⟨rfl, hm⟩

/-- While the memo holds, a `BeginStep` answers with it. -/
theorem sat_beginStep (hexec : M.exec = store.exec) (hΓ : ∀ e q m, Γ i e q m)
    (hinv : Invariant (M.restrict Γ) fun m => Memo runId stepId output m.store) {cfg : Config}
    {req : BeginStepRequest} (hrun : cfg.parseUuid req.runId = some runId)
    (hstep : req.stepName = stepId) :
    Sat M Γ i (fun m => Memo runId stepId output m.store) (WorkerService.beginStep cfg req)
      (fun resp _ => resp = .beginStep stepId false (bytesToPayload output)) (fun _ _ => True) := by
  have keep : ∀ {ε α : Type} (p : Prog Stmt Stmt.Result ε α),
      Sat M Γ i (fun m => Memo runId stepId output m.store) p
        (fun _ m => Memo runId stepId output m.store) (fun _ _ => True) :=
    fun p => (Sat.of_invariant hΓ hinv).mono (fun _ h => h) (fun _ _ h => h) fun _ _ _ => trivial
  unfold WorkerService.beginStep Config.uuid orFail
  simp only [hrun, Prog.ret_bind]
  refine Sat.bind (keep _) fun _ => Sat.bind (keep _) fun policy => Sat.bind (keep _) fun kind => ?_
  refine Sat.bind ((sat_begin hexec hΓ hinv _ _ rfl hstep).mapError fun _ _ h => h) fun result => ?_
  refine Sat.of_fact fun hresult => Sat.bind (keep _) fun _ m _ => ?_
  rw [hresult, hstep]

end BeginStep

/-- The memo is kept in every run in which no write that is blind to the status
puts another result over a completed attempt. -/
theorem memoized_unless_overwritten (cfg : Config) :
    Memoized cfg ((service cfg).restrict Respects) := by
  intro w p p' runId stepId output h hmemo h'
  have hinv := memo_invariant runId stepId output
  refine ⟨h'.invariant hinv hmemo, ?_⟩
  intro i req resp hi hget hrun hstep
  -- Requests up to the completion may answer anything, later ones must return the memo.
  let P : Nat → Request → Response → Now → Prop := fun j req resp _ =>
    p.calls.length ≤ j → ∀ b, req = .beginStep b → cfg.parseUuid b.runId = some runId →
      b.stepName = stepId → resp = .beginStep stepId false (bytesToPayload output)
  let Γ : Condition Stmt Stmt.Result World Env := fun _ _ _ _ => True
  have hsound : Sound ((service cfg).restrict Respects) Γ P (fun _ _ _ _ => True) p := by
    refine ⟨h.numbered (by intro ran hran; cases hran), fun j req c hc => ?_⟩
    refine ⟨fun _ => True, stable_true, trivial, ?_⟩
    refine (Sat.of_invariant (fun _ _ _ => trivial) fun _ _ _ _ _ _ => trivial).mono
      (fun _ h => h) (fun a m _ hj => ?_) (fun _ _ _ => trivial)
    obtain ⟨hlt, -⟩ := List.getElem?_eq_some_iff.mp hc
    exact absurd hj (by omega)
  have hserves : Serves ((service cfg).restrict Respects) Γ
      (fun m => Memo runId stepId output m.store) P (fun _ _ _ _ => True) := by
    intro j req _
    refine ⟨fun m => Memo runId stepId output m.store, hinv.restrict.stable, fun _ h _ => h, ?_⟩
    by_cases hb : ∃ b, req = .beginStep b ∧ cfg.parseUuid b.runId = some runId ∧ b.stepName = stepId
    · obtain ⟨b, rfl, hbr, hbs⟩ := hb
      refine (sat_beginStep (M := store.restrict Respects) rfl (fun _ _ _ => trivial) hinv.restrict hbr hbs).mono
        (fun _ h => h) (fun a m ha _ b' _ _ _ => ha) (fun _ _ h => h)
    · refine (Sat.of_invariant (fun _ _ _ => trivial) hinv.restrict).mono (fun _ h => h)
        (fun a m _ _ b hreq hbr hbs => ?_) (fun _ _ _ => trivial)
      exact absurd ⟨b, hreq, hbr, hbs⟩ hb
  obtain ⟨-, hsound'⟩ := h'.sound hserves hinv.restrict hmemo hsound
  exact hsound'.result hget hi req rfl hrun hstep

/-! ## Two runs -/

/-- A worker claims a run, begins a step and completes it. -/
def completedStep : List (Action Env Request) :=
  [.start (.startWorkflow ⟨"job", "queue", "type", none, "ns", "", none⟩)] ++ runs 0 6 (.quiet 0 1) ++
    [.start (.register ⟨"ns", "queue", ["type"], "host", 7, ""⟩)] ++ runs 1 1 (.quiet 0 2) ++
    [.start (.pollTask ⟨"queue", "2", "ns", ["type"]⟩ 0)] ++ runs 2 7 (.quiet 0 3) ++
    [.start (.beginStep ⟨"ns", "1", "charge", 1, none, none⟩)] ++ runs 3 7 (.quiet 1 4) ++
    [.start (.completeStep ⟨"ns", "1", "charge", some [42]⟩)] ++ runs 4 5 (.quiet 2 5)

def completed : ServerState :=
  fireAll ((service .sample).restrict Respects) (.init (.empty 0) []) completedStep

/-- The step is begun again. -/
def begunAgain : ServerState :=
  fireAll ((service .sample).restrict Respects) completed <|
    [.start (.beginStep ⟨"ns", "1", "charge", 1, none, none⟩)] ++ runs 5 4 (.quiet 3 6)

/-- A failure of the same step that arrives late. -/
def lateFailure : List (Action Env Request) :=
  [.start (.failStep ⟨"ns", "1", "charge", none⟩)] ++ runs 5 4 (.quiet 3 6)

theorem memo_of_map {w : World} {runId : Uuid} {stepId : String} {output : Option Bytes}
    (h : (w.latest runId stepId).map (fun r => (r.status, r.output)) = some (.completed, output)) :
    Memo runId stepId output w := by
  obtain ⟨row, hrow, hval⟩ := Option.map_eq_some_iff.mp h
  exact ⟨row, hrow, Prod.mk.inj hval⟩

/-- The worker is told not to execute the step again. -/
theorem memoized_unless_overwritten_begunAgain : ∃ resp,
    begunAgain.returned 5 = some (.beginStep ⟨"ns", "1", "charge", 1, none, none⟩, resp) ∧
      resp = .beginStep "charge" false [42] := by
  have hsteps : Steps ((service .sample).restrict Respects) (.init (.empty 0) []) completed :=
    AllEnabled.steps (by decide +kernel)
  have hagain : Steps ((service .sample).restrict Respects) completed begunAgain :=
    AllEnabled.steps (by decide +kernel)
  have hmemo : Memo 1 "charge" (some [42]) completed.store := memo_of_map (by decide +kernel)
  have hreturned : begunAgain.returned 5 = some (.beginStep ⟨"ns", "1", "charge", 1, none, none⟩,
      .beginStep "charge" false [42]) := by
    decide +kernel
  have hlen : completed.calls.length ≤ 5 := by decide +kernel
  exact ⟨_, hreturned, (memoized_unless_overwritten .sample _ _ _ 1 "charge" (some [42]) hsteps hmemo
    hagain).2 5 _ _ hlen (Pool.calls_of_returned hreturned) (by decide) rfl⟩

/-- The failure finds retries left and marks the completed attempt failed. -/
theorem not_memoized : ¬ Memoized .sample (service .sample) := by
  intro hmemoized
  have hsteps : Steps (service .sample) (.init (.empty 0) [])
      (fireAll (service .sample) (.init (.empty 0) []) completedStep) :=
    AllEnabled.steps (by decide +kernel)
  have hlate : Steps (service .sample)
      (fireAll (service .sample) (.init (.empty 0) []) completedStep)
      (fireAll (service .sample) (.init (.empty 0) []) (completedStep ++ lateFailure)) := by
    rw [show fireAll (service .sample) (.init (.empty 0) []) (completedStep ++ lateFailure)
      = fireAll (service .sample) (fireAll (service .sample) (.init (.empty 0) []) completedStep)
        lateFailure from fireAll_append ..]
    exact AllEnabled.steps (by decide +kernel)
  have hmemo : Memo 1 "charge" (some [42])
      (fireAll (service .sample) (.init (.empty 0) []) completedStep).store :=
    memo_of_map (by decide +kernel)
  obtain ⟨row, hrow, hs, -⟩ := (hmemoized _ _ _ 1 "charge" (some [42]) hsteps hmemo hlate).1
  have hfailed : ((fireAll (service .sample) (.init (.empty 0) [])
      (completedStep ++ lateFailure)).store.db.latest 1 "charge").map StepRow.status
        = some .failed := by decide +kernel
  rw [hrow, Option.map_some, hs] at hfailed
  cases hfailed

end Memoization

end Kagzi
