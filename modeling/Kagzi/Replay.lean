import Kagzi.Memoization
import Kagzi.Sdk.Context

/-!
# Agreement of replays

All values that `StepBuilder::run` hands to the workflow code for one step of one
run are meant to be equal, and equal to the stored output.  A value from the
cache is.  But an execution that ran the step itself hands on its own value once
`CompleteStep` counts as success, and `CompleteStep` succeeds without a write
when the step is completed already, and a failed precondition counts as success
too.  Two overlapping executions then disagree (`replays_disagree`).

In a run that keeps the memo and in which no execution that has begun a step
finds it completed with another output, or its run over, all values agree
(`replays_agree`), if the values that the codes of the steps return are read back
as they were written.  Of a value that is not, the execution that ran the step
hands on the value itself, and a replay what is read.
-/

namespace Kagzi

open Atomic Memoization

namespace Replay

open Sdk

variable {V : Type}

/-- A state of the server with executions of steps. -/
abbrev SdkState (V : Type) := Pool Stmt Stmt.Result World Env (Traffic V) StepError (Reply V)

/-- Two values handed out for one step of one run are equal, and each is the one
that is stored. -/
def ReplaysAgree (cfg : Config) (codec : Codec V)
    (S : Service Stmt Stmt.Result World Env (Traffic V) StepError (Reply V)) : Prop :=
  ∀ (w : World) (p : SdkState V), Steps S (.init w []) p →
    ∀ (i : Nat) run v, p.calls[i]? = some (.step run, .ret (.value v)) →
      ∀ runId, cfg.parseUuid run.runId = some runId →
        (∃ output, Memo runId run.name output p.store ∧
          codec.fromSlice (bytesToPayload output) = some v) ∧
        ∀ (j : Nat) run' v', p.calls[j]? = some (.step run', .ret (.value v')) →
          cfg.parseUuid run'.runId = some runId → run'.name = run.name → v' = v

/-! ## The condition -/

/-- The caller has put a running attempt of a step into the store. -/
def Began (i : Nat) (m : Now) : Prop :=
  ∃ ran ∈ m.trace, ran.caller = i ∧ ∃ step, ran.query = .supersede step ∧ step.status = .running

/-- The caller has tried to complete the step with this output. -/
def Tried (i : Nat) (runId : Uuid) (stepId : String) (output : Bytes) (m : Now) : Prop :=
  ∃ ran ∈ m.trace, ran.caller = i ∧ ran.query = .completeRunningStep runId stepId output

/-- An execution that has begun a step finds its run not over, and when it cannot
complete the attempt it does not find the step completed with another output. -/
def Undisputed : Condition Stmt Stmt.Result World Env := fun i _ q m =>
  match q with
  | .checkWorkflowState runId _ =>
      Began i m → ∀ r, m.store.run runId = some r → r.status.isTerminal = false
  | .latestStep runId stepId =>
      Began i m → ∀ output, Tried i runId stepId output m →
        ∀ stored, Memo runId stepId stored m.store → stored = some output
  | _ => True

/-- The memo is kept, and executions are undisputed. -/
def Orderly : Condition Stmt Stmt.Result World Env := fun i e q m =>
  Respects i e q m ∧ Undisputed i e q m

abbrev engine : Engine Stmt Stmt.Result World Env := store.restrict Orderly

/-- The server with the executions of steps whose values are read back. -/
def faithful (cfg : Config) (codec : Codec V) :
    Service Stmt Stmt.Result World Env (Traffic V) StepError (Reply V) :=
  { Sdk.service cfg codec with
    accepts := fun
      | .request _ => True
      | .step run => run.ReadsBack codec }

/-! ## Facts that last -/

theorem memo_kept (runId : Uuid) (stepId : String) (output : Option Bytes) :
    Invariant engine fun m => Memo runId stepId output m.store :=
  fun i e q m h ha => memo_invariant runId stepId output i e q m h ⟨ha.1, ha.2.1⟩

theorem began_kept (i : Nat) : Invariant engine (Began i) := by
  rintro j e q m ⟨ran, hran, h⟩ -
  exact ⟨ran, List.mem_cons_of_mem _ hran, h⟩

theorem tried_kept (i : Nat) (runId : Uuid) (stepId : String) (output : Bytes) :
    Invariant engine (Tried i runId stepId output) := by
  rintro j e q m ⟨ran, hran, h⟩ -
  exact ⟨ran, List.mem_cons_of_mem _ hran, h⟩

theorem memo_of_latestStep {runId : Uuid} {stepId : String} {output : Option Bytes} {e : Env}
    {w : World} (h : (store.exec e (.latestStep runId stepId) w).1 = .ok (some ⟨.completed, output⟩)) :
    Memo runId stepId output w := by
  rw [store_exec_fst, Stmt.exec_ok h] at h
  obtain ⟨row, hrow, hfound⟩ := Option.map_eq_some_iff.mp (Except.ok.inj h)
  obtain ⟨hs, ho⟩ := ExistingStep.mk.inj hfound
  exact ⟨row, hrow, hs, ho⟩

/-- Every statement is allowed. -/
def anything : Condition Stmt Stmt.Result World Env := fun _ _ _ _ => True

/-! ## Completing a step -/

section Judgements
variable {cfg : Config} {i : Nat} {runId : Uuid} {stepId : String} {output : Bytes}

theorem mapStoreError_code {x : StoreError} (h : x.isSql = true) :
    (mapStoreError x).code ≠ .failedPrecondition := by
  cases x with
  | invalidState _ => cases h
  | alreadyCompleted _ => cases h
  | preconditionFailed _ => cases h
  | _ =>
      intro hc
      cases hc

/-- The errors of a statement are no failed preconditions. -/
theorem sat_sql_of_began {q : Stmt} {K : Now → Prop} {L : q.Ans → Now → Prop}
    (hK : Invariant engine K) (hL : ∀ a, Invariant engine (L a))
    (h : ∀ e m a, K m → engine.admits i e q m → (store.exec e q m.store).1 = .ok a →
      L a (m.after store i e q)) :
    Sat engine anything i K (sql q) L
      (fun x m => (mapStoreError x).code ≠ .failedPrecondition ∧ K m) := by
  intro e m hm ha
  refine ⟨trivial, ?_⟩
  cases hres : (store.exec e q m.store).1 with
  | ok a =>
      have hres' : (engine.exec e q m.store).1 = .ok a := hres
      rw [hres']
      exact ⟨L a, (hL a).restrict.stable, h e m a hm ha hres, fun _ h => h⟩
  | error x =>
      have hres' : (engine.exec e q m.store).1 = .error x := hres
      rw [hres']
      refine ⟨K, hK.restrict.stable, hK i e q m hm ha, fun m hm => ⟨?_, hm⟩⟩
      exact mapStoreError_code (Stmt.exec_isSql hres)

/-- The same for a statement of a handler. -/
theorem sat_stmt_of_began {q : Stmt} {K : Now → Prop} {L : q.Ans → Now → Prop}
    (hK : Invariant engine K) (hL : ∀ a, Invariant engine (L a))
    (h : ∀ e m a, K m → engine.admits i e q m → (store.exec e q m.store).1 = .ok a →
      L a (m.after store i e q)) :
    Sat engine anything i K (stmt q) L (fun x m => x.code ≠ .failedPrecondition ∧ K m) :=
  (sat_sql_of_began hK hL h).mapError fun _ _ h => h

/-- The run of an execution that has begun is not over. -/
theorem sat_validateWorkflowAction :
    Sat engine anything i (Began i) (WorkerService.validateWorkflowAction cfg runId)
      (fun _ => Began i) (fun x m => x.code ≠ .failedPrecondition ∧ Began i m) := by
  refine Sat.bind (sat_stmt_of_began (began_kept i) (fun _ => began_kept i)
    fun e m _ hm ha _ => began_kept i i e _ m hm ha) fun found => ?_
  refine Sat.bind (P := fun _ => Began i) ?_ fun ns => ?_
  · cases found with
    | none => exact fun m hm => ⟨fun hc => (by cases hc), hm⟩
    | some ns => exact fun m hm => hm
  have hcheck : Sat engine anything i (Began i) (stmt (.checkWorkflowState runId ns))
      (fun check m => (∀ status, check.status = some status → status.isTerminal = false) ∧
        Began i m)
      (fun x m => x.code ≠ .failedPrecondition ∧ Began i m) := by
    refine sat_stmt_of_began (began_kept i)
      (fun check => fun j e q m h ha => ⟨h.1, began_kept i j e q m h.2 ha⟩) ?_
    intro e m check hm ha hres
    refine ⟨?_, began_kept i i e _ m hm ha⟩
    intro status hstatus
    rw [store_exec_fst, Stmt.exec_ok hres] at hres
    change (checkWorkflowState runId ns e m.store.db).1 = .ok check at hres
    unfold checkWorkflowState at hres
    split at hres
    next r hr =>
      obtain rfl := Except.ok.inj hres
      obtain rfl := Option.some.inj hstatus
      exact ha.2.2 hm r (Option.filter_eq_some_iff.mp hr).1
    next =>
      obtain rfl := Except.ok.inj hres
      cases hstatus
  refine Sat.bind hcheck fun check => Sat.of_fact fun hlive => ?_
  split
  next => exact fun m hm => ⟨fun hc => (by cases hc), hm⟩
  next =>
    split
    next status hstatus =>
      rw [hlive status hstatus, if_neg (by simp)]
      exact fun m hm => hm
    next => exact fun m hm => hm

/-- The new attempt of a step with a given status and output. -/
theorem sat_replaceLatest {step : NewStep} (hrun : step.runId = runId) (hstep : step.stepId = stepId)
    (hstatus : step.status = .completed) :
    Sat engine anything i (Began i) (StepRepository.replaceLatest step)
      (fun _ m => Memo runId stepId step.output m.store ∧ Began i m)
      (fun x m => (mapStoreError x).code ≠ .failedPrecondition ∧ Began i m) := by
  subst hrun hstep
  have hinv : Invariant engine fun m =>
      Memo step.runId step.stepId step.output m.store ∧ Began i m :=
    fun j e q m h ha => ⟨memo_kept _ _ _ j e q m h.1 ha, began_kept i j e q m h.2 ha⟩
  have hsup : Sat engine anything i (Began i) (sql (.supersede step))
      (fun hit m => (hit = true → Memo step.runId step.stepId step.output m.store) ∧ Began i m)
      (fun x m => (mapStoreError x).code ≠ .failedPrecondition ∧ Began i m) := by
    refine sat_sql_of_began (began_kept i) (fun hit j e q m h ha =>
      ⟨fun ht => memo_kept _ _ _ j e q m (h.1 ht) ha, began_kept i j e q m h.2 ha⟩) ?_
    intro e m hit hm ha hres
    refine ⟨fun ht => ?_, began_kept i i e _ m hm ha⟩
    subst ht
    have hx := Stmt.exec_ok hres
    rw [store_exec_fst, hx] at hres
    rw [Memo, Moment.after_store, store_exec_db, hx]
    exact hstatus ▸ supersede_hit hres
  refine Sat.bind hsup fun hit => ?_
  cases hit with
  | true => exact fun m hm => ⟨hm.1 rfl, hm.2⟩
  | false =>
      refine (sat_sql_of_began (K := Began i) (L := fun _ m =>
        Memo step.runId step.stepId step.output m.store ∧ Began i m) (began_kept i)
        (fun _ => hinv) ?_).start fun m hm => hm.2
      intro e m _ hm ha hres
      refine ⟨?_, began_kept i i e _ m hm ha⟩
      have hx := Stmt.exec_ok hres
      rw [store_exec_fst, hx] at hres
      rw [Memo, Moment.after_store, store_exec_db, hx]
      exact hstatus ▸ insertStep_hit hres

/-- A completion that succeeds leaves its own output in the store. -/
theorem sat_complete (max : Nat) :
    Sat engine anything i (Began i) (StepRepository.complete max runId stepId output)
      (fun _ m => Memo runId stepId (some output) m.store ∧ Began i m)
      (fun x m => (mapStoreError x).code ≠ .failedPrecondition ∧ Began i m) := by
  refine Sat.bind (P := fun _ => Began i) ?_ fun _ => ?_
  · unfold validatePayloadSize
    split
    next => exact fun m hm => ⟨fun hc => (by cases hc), hm⟩
    next => exact fun m hm => hm
  refine Sat.bind (P := fun _ => Began i) ?_ fun stepKind => ?_
  · refine Sat.bind (sat_sql_of_began (began_kept i) (fun _ => began_kept i)
      fun e m _ hm ha _ => began_kept i i e _ m hm ha) fun kind => ?_
    cases kind with
    | none => exact fun m hm => ⟨fun hc => (by cases hc), hm⟩
    | some kind => exact fun m hm => hm
  have htry : Sat engine anything i (Began i) (sql (.completeRunningStep runId stepId output))
      (fun hit m => (hit = true → Memo runId stepId (some output) m.store) ∧
        Tried i runId stepId output m ∧ Began i m)
      (fun x m => (mapStoreError x).code ≠ .failedPrecondition ∧ Began i m) := by
    refine sat_sql_of_began (began_kept i) (fun hit j e q m h ha =>
      ⟨fun ht => memo_kept _ _ _ j e q m (h.1 ht) ha, tried_kept _ _ _ _ j e q m h.2.1 ha,
        began_kept i j e q m h.2.2 ha⟩) ?_
    intro e m hit hm ha hres
    refine ⟨fun ht => ?_, ⟨_, List.mem_cons_self .., rfl, rfl⟩, began_kept i i e _ m hm ha⟩
    subst ht
    have hx := Stmt.exec_ok hres
    rw [store_exec_fst, hx] at hres
    rw [Memo, Moment.after_store, store_exec_db, hx]
    exact completeRunningStep_hit hres
  refine Sat.bind htry fun hit => ?_
  cases hit with
  | true => exact fun m hm => ⟨hm.1 rfl, hm.2.2⟩
  | false =>
      have hread : Sat engine anything i
          (fun m => Tried i runId stepId output m ∧ Began i m) (sql (.latestStep runId stepId))
          (fun found m => (∀ o, found = some ⟨.completed, o⟩ →
            Memo runId stepId (some output) m.store) ∧ Began i m)
          (fun x m => (mapStoreError x).code ≠ .failedPrecondition ∧
            Tried i runId stepId output m ∧ Began i m) := by
        refine sat_sql_of_began (fun j e q m h ha =>
          ⟨tried_kept _ _ _ _ j e q m h.1 ha, began_kept i j e q m h.2 ha⟩)
          (fun found j e q m h ha =>
            ⟨fun o ho => memo_kept _ _ _ j e q m (h.1 o ho) ha, began_kept i j e q m h.2 ha⟩) ?_
        intro e m found hm ha hres
        refine ⟨fun o ho => ?_, began_kept i i e _ m hm.2 ha⟩
        have hmemo : Memo runId stepId o m.store := memo_of_latestStep (ho ▸ hres)
        have : o = some output := ha.2.2 hm.2 output hm.1 o hmemo
        exact memo_kept _ _ _ i e _ m (this ▸ hmemo) ha
      refine Sat.bind ((hread.mono (fun m hm => hm.2) (fun _ _ h => h) fun _ _ h =>
        ⟨h.1, h.2.2⟩)) fun found => ?_
      split
      next o => exact fun m hm => ⟨hm.1 o rfl, hm.2⟩
      next =>
        refine Sat.bind (P := fun _ => Began i) ((sat_sql_of_began (began_kept i)
          (fun _ => began_kept i) fun e m _ hm ha _ => began_kept i i e _ m hm ha).start
          fun m hm => hm.2) fun attemptId => ?_
        exact sat_replaceLatest rfl rfl rfl

/-- A `CompleteStep` of an execution that has begun. -/
theorem sat_completeStep {req : CompleteStepRequest} (hrun : cfg.parseUuid req.runId = some runId)
    (houtput : req.output = some output) :
    Sat engine anything i (Began i) (WorkerService.completeStep cfg req)
      (fun _ m => Memo runId req.stepId (some output) m.store)
      (fun x m => x.code ≠ .failedPrecondition ∧ Began i m) := by
  have hbytes : (payloadToOptionalBytes req.output).getD [] = output := by
    rw [houtput]
    unfold payloadToOptionalBytes
    cases output <;> rfl
  unfold WorkerService.completeStep Config.uuid orFail
  simp only [hrun, Prog.ret_bind, hbytes]
  refine Sat.bind sat_validateWorkflowAction fun ns => ?_
  refine Sat.bind ((sat_complete cfg.payloadMaxSizeBytes).mapError fun _ _ h => h) fun _ => ?_
  have hinv : Invariant engine fun m => Memo runId req.stepId (some output) m.store ∧ Began i m :=
    fun j e q m h ha => ⟨memo_kept _ _ _ j e q m h.1 ha, began_kept i j e q m h.2 ha⟩
  refine Sat.bind ((sat_stmt_of_began hinv (fun _ => hinv)
    fun e m _ hm ha _ => hinv i e _ m hm ha).mono (fun _ h => h) (fun _ _ h => h)
    fun _ _ h => ⟨h.1, h.2.2⟩) fun rows => ?_
  cases (rows.take 1).getLast? with
  | none => exact fun m hm => ⟨fun hc => (by cases hc), hm.2⟩
  | some row => exact fun m hm => hm.1

/-- An attempt that begins. -/
theorem sat_replaceLatest_running {step : NewStep} (hstatus : step.status = .running) :
    Sat engine anything i (fun _ => True) (StepRepository.replaceLatest step)
      (fun _ => Began i) (fun _ _ => True) := by
  have hsup : Sat engine anything i (fun _ => True) (sql (.supersede step)) (fun _ => Began i)
      (fun _ _ => True) :=
    sat_sql (fun _ => (began_kept i).restrict.stable) fun e m _ _ =>
      ⟨trivial, fun _ _ => ⟨_, List.mem_cons_self .., rfl, step, rfl, hstatus⟩⟩
  refine Sat.bind hsup fun hit => ?_
  cases hit with
  | true => exact fun m hm => hm
  | false =>
      exact (Sat.of_invariant (fun _ _ _ => trivial) (began_kept i).restrict).mono
        (fun _ h => h) (fun _ _ h => h) fun _ _ _ => trivial

/-- What is known after `BeginStep`: a step that is to be executed has begun, and
any other is completed. -/
def Opened (i : Nat) (runId : Uuid) (stepId : String) (shouldExecute : Bool)
    (output : Option Bytes) (m : Now) : Prop :=
  match shouldExecute with
  | true => Began i m
  | false => Memo runId stepId output m.store

theorem opened_kept (i : Nat) (runId : Uuid) (stepId : String) (shouldExecute : Bool)
    (output : Option Bytes) : Invariant engine (Opened i runId stepId shouldExecute output) := by
  cases shouldExecute with
  | true => exact began_kept i
  | false => exact memo_kept runId stepId output

theorem sat_begin (max : Nat) (params : BeginStepParams) :
    Sat engine anything i (fun _ => True) (StepRepository.begin max params)
      (fun result => Opened i params.runId params.stepId result.shouldExecute result.cachedOutput)
      (fun _ _ => True) := by
  have anyway : ∀ {ε α : Type} (p : Prog Stmt Stmt.Result ε α),
      Sat engine anything i (fun _ => True) p (fun _ _ => True) (fun _ _ => True) :=
    fun p => Sat.of_invariant (fun _ _ _ => trivial) fun _ _ _ _ _ _ => trivial
  have hread : Sat engine anything i (fun _ => True) (sql (.latestStep params.runId params.stepId))
      (fun found m => ∀ output, found = some ⟨.completed, output⟩ →
        Memo params.runId params.stepId output m.store) (fun _ _ => True) := by
    refine sat_sql (fun found => Stable.forall fun output => Stable.imp fun _ =>
      (memo_kept params.runId params.stepId output).restrict.stable) fun e m _ ha => ⟨trivial, ?_⟩
    intro found hres output hfound
    exact memo_kept _ _ _ i e _ m (memo_of_latestStep (hfound ▸ hres)) ha
  refine Sat.bind (anyway _) fun _ => Sat.bind hread fun found => ?_
  split
  next output => exact fun m hm => hm output rfl
  next =>
    refine (Sat.bind (anyway _) fun attemptId => ?_).start fun _ _ => trivial
    exact Sat.bind (sat_replaceLatest_running rfl) fun _ => fun m hm => hm

/-- A `BeginStep` of an execution. -/
theorem sat_beginStep {req : BeginStepRequest} (hrun : cfg.parseUuid req.runId = some runId) :
    Sat engine anything i (fun _ => True) (WorkerService.beginStep cfg req)
      (fun resp m => ∃ shouldExecute output,
        resp = .beginStep req.stepName shouldExecute (bytesToPayload output) ∧
          Opened i runId req.stepName shouldExecute output m)
      (fun _ _ => True) := by
  have anyway : ∀ {ε α : Type} (p : Prog Stmt Stmt.Result ε α),
      Sat engine anything i (fun _ => True) p (fun _ _ => True) (fun _ _ => True) :=
    fun p => Sat.of_invariant (fun _ _ _ => trivial) fun _ _ _ _ _ _ => trivial
  unfold WorkerService.beginStep Config.uuid orFail
  simp only [hrun, Prog.ret_bind]
  refine Sat.bind (anyway _) fun _ => Sat.bind (anyway _) fun policy =>
    Sat.bind (anyway _) fun kind => ?_
  refine Sat.bind ((sat_begin cfg.payloadMaxSizeBytes _).mapError fun _ _ h => h) fun result => ?_
  have hkept := opened_kept i runId req.stepName result.shouldExecute result.cachedOutput
  refine Sat.bind ((Sat.of_invariant (fun _ _ _ => trivial) hkept.restrict).mono (fun _ h => h)
    (fun _ _ h => h) fun _ _ _ => trivial) fun _ => ?_
  exact fun m hm => ⟨_, _, rfl, hm⟩

/-! ## An execution of a step -/

/-- What is known when a `CompleteStep` with an output has been sent. -/
def Sent (i : Nat) (runId : Uuid) (stepId : String) (output : Bytes) :
    Except Status Response → Now → Prop
  | .ok _, m => Memo runId stepId (some output) m.store
  | .error x, m => x.code ≠ .failedPrecondition ∧ Began i m

/-- The loop ends with the output in the store. -/
theorem sat_completeLoop {req : CompleteStepRequest} (hrun : cfg.parseUuid req.runId = some runId)
    (houtput : req.output = some output) (delays : Nat) (lost : List Bool) :
    Sat engine anything i (Began i) (completeLoop cfg req delays lost)
      (fun _ m => Memo runId req.stepId (some output) m.store) (fun _ _ => True) := by
  have hsend : ∀ lost, Sat engine anything i (Began i)
      (send lost (WorkerService.completeStep cfg req)).attempt (Sent i runId req.stepId output)
      (fun (_ : StepError) _ => True) := by
    intro lost
    cases lost with
    | true => exact fun m hm => ⟨fun hc => (by cases hc), hm⟩
    | false => exact (sat_completeStep hrun houtput).attempt (fun _ _ h => h) fun _ _ h => h
  induction delays generalizing lost with
  | zero =>
      unfold completeLoop
      refine Sat.bind (hsend _) fun result => ?_
      cases result with
      | ok resp => exact fun m hm => hm
      | error x =>
          refine Sat.of_fact fun hx => ?_
          dsimp only
          rw [if_neg hx]
          split <;> exact fun _ _ => trivial
  | succ delays ih =>
      unfold completeLoop
      refine Sat.bind (hsend _) fun result => ?_
      cases result with
      | ok resp => exact fun m hm => hm
      | error x =>
          refine Sat.of_fact fun hx => ?_
          dsimp only
          rw [if_neg hx]
          split
          next => exact fun _ _ => trivial
          next => exact ih lost.tail

/-- The value is what the stored output reads as. -/
def Stored (codec : Codec V) (runId : Uuid) (stepId : String) (v : V) (m : Now) : Prop :=
  ∃ output, Memo runId stepId output m.store ∧ codec.fromSlice (bytesToPayload output) = some v

theorem Stored.unique {codec : Codec V} {stepId : String} {v v' : V} {m : Now}
    (h : Stored codec runId stepId v m) (h' : Stored codec runId stepId v' m) : v' = v := by
  obtain ⟨output, ⟨row, hrow, -, rfl⟩, hv⟩ := h
  obtain ⟨output', ⟨row', hrow', -, rfl⟩, hv'⟩ := h'
  obtain rfl := Option.some.inj (hrow.symm.trans hrow')
  exact Option.some.inj (hv'.symm.trans hv)

/-- An execution hands on the stored value. -/
theorem sat_call {codec : Codec V} {run : StepRun V} (hvalue : run.ReadsBack codec)
    (hrun : cfg.parseUuid run.runId = some runId) :
    Sat engine anything i (fun _ => True) (run.call cfg codec)
      (fun v => Stored codec runId run.name v) (fun _ _ => True) := by
  have hsend : Sat engine anything i (fun _ => True)
      ((send run.beginLost (WorkerService.beginStep cfg
        ⟨run.ns, run.runId, run.name, 1, none, run.retry⟩)).mapError StepError.status)
      (fun resp m => ∃ shouldExecute output,
        resp = .beginStep run.name shouldExecute (bytesToPayload output) ∧
          Opened i runId run.name shouldExecute output m)
      (fun _ _ => True) := by
    cases run.beginLost with
    | true => exact fun _ _ => trivial
    | false => exact (sat_beginStep hrun).mapError fun _ _ h => h
  refine Sat.bind hsend fun resp => Sat.of_exists fun shouldExecute => Sat.of_exists fun output => ?_
  refine Sat.of_fact fun hresp => ?_
  subst hresp
  simp only [proceed, ite_self]
  cases shouldExecute with
  | false =>
      simp only [Bool.false_eq_true, if_false]
      split
      next v hv => exact fun m hm => ⟨output, hm, hv⟩
      next => exact fun _ _ => trivial
  | true =>
      simp only [if_true]
      split
      next v hv =>
        unfold report
        split
        next => exact fun _ _ => trivial
        next bytes hbytes =>
          refine Sat.bind (sat_completeLoop hrun (show _ = some bytes from rfl) _ _) fun _ => ?_
          exact fun m hm => ⟨some bytes, hm, hvalue v hv bytes hbytes⟩
      next =>
        refine Sat.bind (P := fun _ _ => True) (X := fun _ _ => True) ?_ fun resp => ?_
        · exact (Sat.of_invariant (fun _ _ _ => trivial) fun _ _ _ _ _ _ => trivial).start
            fun _ _ => trivial
        · split <;> exact fun _ _ => trivial

end Judgements

/-! ## All replays -/

/-- Where the memo is kept, executions are undisputed and what the steps return is read
back, all values agree. -/
theorem replays_agree (cfg : Config) (codec : Codec V) :
    ReplaysAgree cfg codec ((faithful cfg codec).restrict Orderly) := by
  intro w p h
  let P : Nat → Traffic V → Reply V → Now → Prop := fun _ traffic reply m =>
    ∀ run v, traffic = .step run → reply = .value v →
      ∀ runId, cfg.parseUuid run.runId = some runId → Stored codec runId run.name v m
  have hserves : Serves ((faithful cfg codec).restrict Orderly) anything (fun _ => True) P
      (fun _ _ _ _ => True) := by
    intro i traffic haccepts
    refine ⟨fun _ => True, stable_true, fun _ _ _ => trivial, ?_⟩
    have anyway : ∀ {ε α : Type} (p : Prog Stmt Stmt.Result ε α),
        Sat engine anything i (fun _ => True) p (fun _ _ => True) (fun _ _ => True) :=
      fun p => Sat.of_invariant (fun _ _ _ => trivial) fun _ _ _ _ _ _ => trivial
    cases traffic with
    | request req =>
        refine (anyway _).mono (fun _ h => h) (fun reply m _ run v htraffic => ?_) fun _ _ h => h
        cases htraffic
    | step run =>
        cases hrun : cfg.parseUuid run.runId with
        | none =>
            refine (anyway _).mono (fun _ h => h) (fun reply m _ run' v htraffic _ runId h => ?_)
              fun _ _ h => h
            obtain rfl := Traffic.step.inj htraffic
            rw [hrun] at h
            cases h
        | some runId =>
            refine Sat.bind (sat_call haccepts hrun) fun v m hm run' v' htraffic hreply runId' h => ?_
            obtain rfl := Traffic.step.inj htraffic
            obtain rfl := Reply.value.inj hreply
            rw [hrun] at h
            obtain rfl := Option.some.inj h
            exact hm
  obtain ⟨-, hsound⟩ := h.sound hserves (fun _ _ _ _ _ _ => trivial) trivial (sound_nil w)
  intro i run v hget runId hrun
  have hv := hsound.result hget run v rfl rfl runId hrun
  refine ⟨hv, fun j run' v' hget' hrun' hname => ?_⟩
  have hv' := hsound.result hget' run' v' rfl rfl runId hrun'
  exact hv.unique (hname ▸ hv')

/-! ## Replays of a value that is stored -/

section Decisions
variable {i : Nat} {m : Now} {runId : Uuid} {stepId : String}

/-- The statement puts a running attempt into the store. -/
def begins : Stmt → Bool
  | .supersede step => step.status = .running
  | _ => false

theorem began_iff : Began i m ↔ (m.trace.any fun ran =>
  decide (ran.caller = i) && begins ran.query) = true := by
  simp only [List.any_eq_true, Bool.and_eq_true, decide_eq_true_eq]
  refine exists_congr fun ran => and_congr_right fun _ => and_congr_right fun _ => ?_
  constructor
  · rintro ⟨step, hquery, hstatus⟩
    rw [hquery]
    exact decide_eq_true hstatus
  · intro h
    unfold begins at h
    split at h
    next step hquery => exact ⟨step, hquery, of_decide_eq_true h⟩
    next => cases h

instance : Decidable (Began i m) := decidable_of_iff _ began_iff.symm

/-- The output that the statement tries to complete the step with. -/
def tries (runId : Uuid) (stepId : String) : Stmt → Option Bytes
  | .completeRunningStep runId' stepId' output =>
      if runId' = runId ∧ stepId' = stepId then some output else none
  | _ => none

theorem tries_iff {q : Stmt} {output : Bytes} :
    tries runId stepId q = some output ↔ q = .completeRunningStep runId stepId output := by
  constructor
  · intro h
    unfold tries at h
    split at h
    next =>
      split at h
      next heq =>
        obtain ⟨rfl, rfl⟩ := heq
        obtain rfl := Option.some.inj h
        rfl
      next => cases h
    next => cases h
  · rintro rfl
    simp [tries]

/-- The step is not completed with another output than those the caller has tried. -/
def Unrivalled (i : Nat) (runId : Uuid) (stepId : String) (m : Now) : Prop :=
  ∀ ran ∈ m.trace, ran.caller = i → ∀ output ∈ tries runId stepId ran.query,
    ∀ row ∈ m.store.latest runId stepId, row.status = .completed → row.output = some output

instance : Decidable (Unrivalled i runId stepId m) := by
  unfold Unrivalled
  infer_instance

theorem unrivalled_iff : Unrivalled i runId stepId m ↔
    ∀ output, Tried i runId stepId output m → ∀ stored, Memo runId stepId stored m.store →
        stored = some output := by
  constructor
  · rintro h output ⟨ran, hran, hcaller, hquery⟩ stored ⟨row, hrow, hs, rfl⟩
    exact h ran hran hcaller output (tries_iff.mpr hquery) row hrow hs
  · intro h ran hran hcaller output hquery row hrow hs
    exact h output ⟨ran, hran, hcaller, tries_iff.mp hquery⟩ row.output ⟨row, hrow, hs, rfl⟩

/-- The run is not over. -/
def Live (runId : Uuid) (m : Now) : Prop :=
  ((m.store.run runId).all fun r => !r.status.isTerminal) = true

theorem live_iff : Live runId m ↔ ∀ r, m.store.run runId = some r →
    r.status.isTerminal = false := by
  unfold Live
  cases m.store.run runId with
  | none => simp
  | some r => simp

/-- `Undisputed`, as it is decided. -/
def undisputed (i : Nat) (q : Stmt) (m : Now) : Bool :=
  match q with
  | .checkWorkflowState runId _ =>
      !decide (Began i m) || (m.store.run runId).all fun r => !r.status.isTerminal
  | .latestStep runId stepId => !decide (Began i m) || decide (Unrivalled i runId stepId m)
  | _ => true

theorem undisputed_iff (i : Nat) (e : Env) (q : Stmt) (m : Now) :
    undisputed i q m = true ↔ Undisputed i e q m := by
  cases q with
  | checkWorkflowState runId ns =>
      have hlive : Undisputed i e (.checkWorkflowState runId ns) m ↔ (Began i m → Live runId m) :=
        imp_congr_right fun _ => live_iff.symm
      rw [hlive, undisputed, Live, Bool.or_eq_true, Bool.not_eq_true', decide_eq_false_iff_not,
        imp_iff_not_or]
  | latestStep runId stepId =>
      have hfree : Undisputed i e (.latestStep runId stepId) m ↔
          (Began i m → Unrivalled i runId stepId m) :=
        imp_congr_right fun _ => unrivalled_iff.symm
      rw [hfree, undisputed, Bool.or_eq_true, Bool.not_eq_true', decide_eq_false_iff_not,
        decide_eq_true_eq, imp_iff_not_or]
  | _ => exact ⟨fun _ => trivial, fun _ => rfl⟩

instance (i : Nat) (e : Env) (q : Stmt) (m : Now) : Decidable (Undisputed i e q m) :=
  decidable_of_iff _ (undisputed_iff i e q m)

instance (i : Nat) (e : Env) (q : Stmt) (m : Now) : Decidable (Orderly i e q m) :=
  inferInstanceAs (Decidable (_ ∧ _))

end Decisions

/-- The run and the step of an execution that has ended, and the value it handed
on. -/
def handed (p : SdkState Bool) (i : Nat) : Option (String × String × Bool) :=
  match p.calls[i]? with
  | some (.step run, .ret (.value v)) => some (run.runId, run.name, v)
  | _ => none

theorem get_of_handed {p : SdkState Bool} {i : Nat} {runId name : String} {v : Bool}
    (h : handed p i = some (runId, name, v)) :
    ∃ run, p.calls[i]? = some (.step run, .ret (.value v)) ∧ run.runId = runId ∧
      run.name = name := by
  unfold handed at h
  split at h
  next run v' hget =>
    obtain ⟨rfl, hval⟩ := Prod.mk.inj (Option.some.inj h)
    obtain ⟨rfl, rfl⟩ := Prod.mk.inj hval
    exact ⟨run, hget, rfl, rfl⟩
  next => cases h

instance (cfg : Config) (codec : Codec V) (i : Nat) (e : Env) (q : Stmt) (m : Now) :
    Decidable ((faithful cfg codec).admits i e q m) :=
  inferInstanceAs (Decidable (store.admits i e q m))

instance : DecidablePred (faithful .sample .bool).accepts
  | .request _ => .isTrue trivial
  | .step _ => .isTrue fun v _ => Codec.bool_readsBack v

/-- A run, with a first execution of its step and another one later, whose code returns
something else. -/
def replayed : SdkState Bool :=
  fireAll ((faithful .sample .bool).restrict Orderly) (.init (.empty 0) []) <|
    [.start (.request (.startWorkflow ⟨"job", "queue", "type", none, "ns", "", none⟩))] ++
      runs 0 6 (.quiet 0 1) ++
      [.start (.request (.register ⟨"ns", "queue", ["type"], "host", 7, ""⟩))] ++
      runs 1 1 (.quiet 0 2) ++
      [.start (.request (.pollTask ⟨"queue", "2", "ns", ["type"]⟩ 0))] ++ runs 2 7 (.quiet 0 3) ++
      [.start (.step ⟨"ns", "1", "charge", none, .ok true, false, [], false⟩)] ++
      runs 3 12 (.quiet 1 4) ++
      [.start (.step ⟨"ns", "1", "charge", none, .ok false, false, [], false⟩)] ++
      runs 4 4 (.quiet 2 5)

/-- The second execution is handed the value of the first. -/
theorem replays_agree_replayed : ∃ run run' v v',
    replayed.calls[3]? = some (.step run, .ret (.value v)) ∧
      replayed.calls[4]? = some (.step run', .ret (.value v')) ∧ v = true ∧ v' = v := by
  have hsteps : Steps ((faithful .sample .bool).restrict Orderly) (.init (.empty 0) []) replayed :=
    AllEnabled.steps (by decide +kernel)
  have hfirst : handed replayed 3 = some ("1", "charge", true) := by decide +kernel
  have hsecond : handed replayed 4 = some ("1", "charge", true) := by decide +kernel
  have hparse : Config.sample.parseUuid "1" = some 1 := by decide +kernel
  obtain ⟨run, hget, hrun, hname⟩ := get_of_handed hfirst
  obtain ⟨run', hget', hrun', hname'⟩ := get_of_handed hsecond
  have hagree := replays_agree .sample .bool _ replayed hsteps 3 run true hget 1 (hrun ▸ hparse)
  exact ⟨run, run', true, true, hget, hget', rfl,
    hagree.2 4 run' true hget' (hrun' ▸ hparse) (hname'.trans hname.symm)⟩

/-! ## Replays disagree -/

/-- Two executions of one step overlap, and their codes return different values. -/
def overlapping : List (Action Env (Traffic Bool)) :=
  [.start (.request (.startWorkflow ⟨"job", "queue", "type", none, "ns", "", none⟩))] ++
    runs 0 6 (.quiet 0 1) ++
    [.start (.request (.register ⟨"ns", "queue", ["type"], "host", 7, ""⟩))] ++
    runs 1 1 (.quiet 0 2) ++
    [.start (.request (.pollTask ⟨"queue", "2", "ns", ["type"]⟩ 0))] ++ runs 2 7 (.quiet 0 3) ++
    [.start (.step ⟨"ns", "1", "charge", none, .ok true, false, [], false⟩)] ++
    runs 3 7 (.quiet 1 4) ++
    [.start (.step ⟨"ns", "1", "charge", none, .ok false, false, [], false⟩)] ++
    runs 4 6 (.quiet 2 5) ++ runs 3 5 (.quiet 3 6) ++ runs 4 6 (.quiet 4 7)

/-- The execution that completes the step second hands on its own value. -/
theorem replays_disagree : ¬ ReplaysAgree .sample .bool (Sdk.service .sample .bool) := by
  intro hagree
  let p := fireAll (Sdk.service .sample .bool) (.init (.empty 0) []) overlapping
  have hsteps : Steps (Sdk.service .sample .bool) (.init (.empty 0) []) p :=
    AllEnabled.steps (by decide +kernel)
  have hfirst : handed p 3 = some ("1", "charge", true) := by decide +kernel
  have hsecond : handed p 4 = some ("1", "charge", false) := by decide +kernel
  have hparse : Config.sample.parseUuid "1" = some 1 := by decide +kernel
  obtain ⟨run, hget, hrun, hname⟩ := get_of_handed hfirst
  obtain ⟨run', hget', hrun', hname'⟩ := get_of_handed hsecond
  have hvalue := (hagree _ p hsteps 3 run true hget 1 (hrun ▸ hparse)).2 4 run' false hget'
    (hrun' ▸ hparse) (hname'.trans hname.symm)
  cases hvalue

end Replay

end Kagzi
