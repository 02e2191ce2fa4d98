import Mathlib.Data.List.GetD
import Kagzi.Replay
import Kagzi.Delivery
import Kagzi.Sdk.Worker

/-!
# Executions agree

A run may be executed many times: its worker crashes, its lease lapses, its report is lost.
Each execution starts the code of the workflow again, and is handed the stored values of the
steps that are completed.  So what an execution ends with is a function of the input of the run
and of the stored values (`Gives`), both of which last.  Whatever the code of a step does in the
different executions, those that end well end with the same output (`executions_agree`).

The run has to be orderly in the sense of `Replay`, and what the steps return has to be read
back: there the values of a single step agree.
-/

namespace Kagzi

open Atomic Memoization Replay

namespace Durable

open Sdk

variable {V : Type}

/-! ## Executions and the server -/

/-- What runs against the store: a request, or a poll of a worker with what comes of it. -/
inductive Traffic (V : Type) where
  | request (req : Request)
  | poll (run : PollCall V)

/-- How a request or a poll ends. -/
inductive Reply (V : Type) where
  | response (resp : Response)
  | idle
  /-- The poll was handed a run, and its code has ended. -/
  | ended (runId workflowType : String) (input : Payload) (r : Except WorkflowError V)

/-- `PollCall.accept`, with the end of the code. -/
def accepted (cfg : Config) (json : Json V) (run : PollCall V) : Response → Call (Reply V)
  | .pollTask runId workflowType input =>
      if runId = "" then .ret .idle
      else
        match run.workflows.lookup workflowType with
        | some handler => do
            let execution := run.execution json runId input handler
            let r ← (execution.code.run cfg json.toCodec execution.ctx).attempt
            execution.report cfg json r
            pure (.ended runId workflowType input r)
        | none => .ret .idle
  | _ => .ret .idle

/-- `PollCall.call`, with the end of the code. -/
def polled (cfg : Config) (json : Json V) (run : PollCall V) : Call (Reply V) := do
  match ← (WorkerService.pollTask cfg run.request run.waits).attempt with
  | .ok resp => if run.responseLost resp then .ret .idle else accepted cfg json run resp
  | .error _ => .ret .idle

theorem accepted_accept (cfg : Config) (json : Json V) (run : PollCall V) (resp : Response) :
    (accepted cfg json run resp >>= fun _ => .ret ()) = run.accept cfg json resp := by
  cases resp with
  | pollTask runId workflowType input =>
      unfold accepted PollCall.accept
      dsimp only
      split
      next => rfl
      next =>
        cases run.workflows.lookup workflowType with
        | none => rfl
        | some handler =>
            dsimp only [Execution.call]
            rw [Prog.bind_assoc]
            congr 1
            funext r
            rw [Prog.bind_assoc]
            exact Prog.bind_ret _
  | _ => rfl

/-- Without the end of the code it is `PollCall.call`. -/
theorem polled_call (cfg : Config) (json : Json V) (run : PollCall V) :
    (polled cfg json run >>= fun _ => .ret ()) = run.call cfg json := by
  unfold polled PollCall.call
  rw [Prog.bind_assoc]
  congr 1
  funext resp
  cases resp with
  | error x => rfl
  | ok resp =>
      dsimp only
      split
      next => rfl
      next => exact accepted_accept cfg json run resp

/-- The codes differ at most in what their steps do. -/
inductive Alike : WorkflowCode V → WorkflowCode V → Prop where
  | ok {output : V} : Alike (.ok output) (.ok output)
  | err {x : WorkflowError} : Alike (.err x) (.err x)
  | step {s s' : StepRun V} {next next' : Except Cause V → WorkflowCode V} :
      s'.name = s.name → (∀ r, Alike (next r) (next' r)) → Alike (.step s next) (.step s' next')
  | sleep {s s' : SleepCall} {next next' : Except Cause Unit → WorkflowCode V} :
      (∀ r, Alike (next r) (next' r)) → Alike (.sleep s next) (.sleep s' next')

/-- The workers execute this code: their handlers differ from it at most in what the steps do,
and hand on the errors of the context.  What their steps return is read back. -/
def Executes (codec : Codec V) (code : String → V → WorkflowCode V) (run : PollCall V) : Prop :=
  ∀ name handler, run.workflows.lookup name = some handler →
    ∀ input, Alike (code name input) (handler input) ∧ (handler input).Propagates ∧
      ∀ s, (handler input).Calls s → s.ReadsBack codec

/-- The server with the workers that execute a code. -/
def service (cfg : Config) (json : Json V) (code : String → V → WorkflowCode V) :
    Service Stmt Stmt.Result World Env (Traffic V) StepError (Reply V) :=
  { store with
    spawn := fun
      | .request req => do
          let resp ← (handle cfg req).mapError .status
          pure (.response resp)
      | .poll run => polled cfg json run
    accepts := fun
      | .request _ => True
      | .poll run => Executes json.toCodec code run }

instance (cfg : Config) (json : Json V) (code : String → V → WorkflowCode V) (i : Nat) (e : Env)
    (q : Stmt) (m : Now) : Decidable ((service cfg json code).admits i e q m) :=
  inferInstanceAs (Decidable (store.admits i e q m))

/-- A state of the server and its workers. -/
abbrev State (V : Type) := Pool Stmt Stmt.Result World Env (Traffic V) StepError (Reply V)

/-! ## What is handed out for a run -/

/-- The run that a poll has handed out. -/
def item : Ran → Option ClaimedWorkflow
  | ⟨_, _, .pollWorkflow _ _ _ _ _, .ok found⟩ => found
  | _ => none

/-- The run still has the work that was handed out, or has lost its input for good. -/
def Settled (it : ClaimedWorkflow) (w : World) : Prop :=
  (∃ work, w.db.work it.runId = some work ∧ work.workflowType = it.workflowType ∧
    work.input = it.input) ∨
    w.db.payload it.runId = none ∧ w.Keeps it.runId fun _ => True

/-- All that is handed out for a run is the same. -/
structure Lasting (m : Now) : Prop where
  referred : m.store.db.Referred
  settled : ∀ ran ∈ m.trace, ∀ it, item ran = some it → Settled it m.store
  agree : ∀ ran ∈ m.trace, ∀ it, item ran = some it → ∀ ran' ∈ m.trace, ∀ it',
    item ran' = some it' →
    it'.runId = it.runId → it'.workflowType = it.workflowType ∧ it'.input = it.input

theorem item_eq_some {i : Nat} {e : Env} {q : Stmt} {w : World} {it : ClaimedWorkflow}
    (h : item ⟨i, e, q, (store.exec e q w).1⟩ = some it) :
    ∃ ns taskQueue workerId types secs, q = .pollWorkflow ns taskQueue workerId types secs ∧
      ((Stmt.pollWorkflow ns taskQueue workerId types secs).exec e w.db).1 = .ok (some it) := by
  cases q with
  | pollWorkflow ns taskQueue workerId types secs =>
      refine ⟨ns, taskQueue, workerId, types, secs, rfl, ?_⟩
      cases hans : ((Stmt.pollWorkflow ns taskQueue workerId types secs).exec e w.db).1 with
      | error x =>
          rw [store_exec_fst, hans] at h
          cases h
      | ok found =>
          rw [store_exec_fst, hans] at h
          exact congrArg Except.ok h
  | _ => cases h

/-- Only a statement that creates the run gives it a payload. -/
theorem newborn_of_work {i : Nat} {e : Env} {q : Stmt} {m : Now} {runId : Uuid} {work : Work}
    (h : m.store.db.Referred) (hold : m.store.db.work runId = none)
    (hnew : (q.exec e m.store.db).2.work runId = some work) :
    Delivery.newborn ⟨i, e, q, (store.exec e q m.store).1⟩ = some runId := by
  have hc := q.exec_work e h runId
  rw [hold, hnew] at hc
  generalize hq : q = q' at hc
  cases hc with
  | @created params hok =>
      subst hq
      obtain ⟨id, hid⟩ := hok
      have hans : (store.exec e (.createWorkflow params) m.store).1 = .ok id := hid
      rw [hans]
      exact congrArg some (Db.runId_of_work hnew)
  | @instantiated template fireAt work hok _ =>
      subst hq
      have hans : (store.exec e (.createScheduleInstance template fireAt) m.store).1 =
          .ok (some e.fresh) := hok
      rw [hans]
      exact congrArg some (Db.runId_of_work hnew)

/-- What was handed out for a run stays the work of the run. -/
theorem Settled.exec {i : Nat} {e : Env} {q : Stmt} {m : Now} {it : ClaimedWorkflow}
    (h : Settled it m.store) (hreferred : m.store.db.Referred) (ha : store.admits i e q m) :
    Settled it (store.exec e q m.store).2 := by
  have hkeeps : ∀ {r}, m.store.run it.runId = some r →
      (store.exec e q m.store).2.Keeps it.runId fun _ => True := fun hr =>
    World.Keeps.exec (.inl ⟨_, hr, trivial⟩) (fun _ _ _ _ => trivial) ha.2.1
  have hreferred' := q.exec_referred e hreferred
  rcases h with ⟨work, hwork, hname, hinput⟩ | ⟨hnone, hkeep⟩
  · obtain ⟨r, p, hr, -, -⟩ := Db.work_eq_some.mp hwork
    have hc := q.exec_work e hreferred it.runId
    rw [hwork] at hc
    generalize hnew : (q.exec e m.store.db).2.work it.runId = new at hc
    cases hc with
    | same => exact .inl ⟨work, hnew, hname, hinput⟩
    | gone =>
        refine .inr ⟨?_, hkeeps hr⟩
        cases hp : (q.exec e m.store.db).2.payload it.runId with
        | none => exact hp
        | some p' =>
            obtain ⟨r', hr'⟩ := hreferred' it.runId p' hp
            rw [Db.work_eq_some.mpr ⟨r', p', hr', hp, rfl⟩] at hnew
            cases hnew
  · refine .inr ⟨?_, hkeep.exec (fun _ _ _ _ => trivial) ha.2.1⟩
    cases hp : (q.exec e m.store.db).2.payload it.runId with
    | none => exact hp
    | some p' =>
        obtain ⟨r', hr'⟩ := hreferred' it.runId p' hp
        have hb := newborn_of_work (i := i) (q := q) (e := e) hreferred
            (Db.work_of_no_payload hnone)
          (Db.work_eq_some.mpr ⟨r', p', hr', hp, rfl⟩)
        obtain ⟨hfresh, hfree, -⟩ := Delivery.newborn_fresh hb
        rcases hkeep with ⟨r, hr, -⟩ | ⟨-, hgone⟩
        · rw [hr] at hfree
          cases hfree
        · exact absurd hgone (ha.2.1 it.runId hfresh)

theorem Settled.agree {it it' : ClaimedWorkflow} {w : World} {work : Work} (h : Settled it w)
    (hwork : w.db.work it'.runId = some work) (hname : it'.workflowType = work.workflowType)
    (hinput : it'.input = work.input) (hid : it'.runId = it.runId) :
    it'.workflowType = it.workflowType ∧ it'.input = it.input := by
  rw [hid] at hwork
  rcases h with ⟨work', hwork', hname', hinput'⟩ | ⟨hnone, -⟩
  · obtain rfl := Option.some.inj (hwork.symm.trans hwork')
    exact ⟨hname.trans hname', hinput.trans hinput'⟩
  · rw [Db.work_of_no_payload hnone] at hwork
    cases hwork

theorem lasting_kept : Invariant store Lasting := by
  intro i e q m hm ha
  have hreferred' := q.exec_referred e hm.referred
  -- a poll hands out the work that its run has before and after it
  have hnew : ∀ it, item ⟨i, e, q, (store.exec e q m.store).1⟩ = some it →
      ∃ work, m.store.db.work it.runId = some work ∧ it.workflowType = work.workflowType ∧
        it.input = work.input := by
    intro it hit
    obtain ⟨ns, taskQueue, workerId, types, secs, rfl, hans⟩ := item_eq_some hit
    obtain ⟨work, hwork, -, -, -, -, hname, hinput⟩ := work_of_pollWorkflow hans
    exact ⟨work, hwork, hname, hinput⟩
  refine ⟨hreferred', ?_, ?_⟩
  · intro ran hran it hit
    rcases List.mem_cons.mp hran with rfl | hran
    · obtain ⟨work, hwork, hname, hinput⟩ := hnew it hit
      have hsettled : Settled it m.store := .inl ⟨work, hwork, hname.symm, hinput.symm⟩
      exact hsettled.exec hm.referred ha
    · exact (hm.settled ran hran it hit).exec hm.referred ha
  · intro ran hran it hit ran' hran' it' hit' hid
    rcases List.mem_cons.mp hran with rfl | hran <;> rcases List.mem_cons.mp hran' with rfl | hran'
    · obtain rfl : it' = it := Option.some.inj (hit'.symm.trans hit)
      exact ⟨rfl, rfl⟩
    · obtain ⟨work, hwork, hname, hinput⟩ := hnew it hit
      obtain ⟨hname', hinput'⟩ := (hm.settled ran' hran' it' hit').agree hwork hname hinput hid.symm
      exact ⟨hname'.symm, hinput'.symm⟩
    · obtain ⟨work, hwork, hname, hinput⟩ := hnew it' hit'
      exact (hm.settled ran hran it hit).agree hwork hname hinput hid
    · exact hm.agree ran hran it hit ran' hran' it' hit' hid

/-! ## What a poll answers -/

section Judgements
variable {cfg : Config} {json : Json V} {code : String → V → WorkflowCode V} {i : Nat}
    {runId : Uuid}

/-- The run has been handed out. -/
def Handed (it : ClaimedWorkflow) (m : Now) : Prop := ∃ ran ∈ m.trace, item ran = some it

theorem handed_kept (it : ClaimedWorkflow) : Invariant engine (Handed it) :=
  fun _ _ _ _ ⟨ran, hran, hit⟩ _ => ⟨ran, List.mem_cons_of_mem _ hran, hit⟩

/-- The response is empty, or that of a run that has been handed out. -/
def Answered (cfg : Config) (resp : Response) (m : Now) : Prop :=
  resp = .pollTask "" "" [] ∨ ∃ it, Handed it m ∧
    resp = .pollTask (cfg.uuidText it.runId) it.workflowType (bytesToPayload (some it.input))

theorem anyway {ε α : Type} {K : Now → Prop} (p : Prog Stmt Stmt.Result ε α) :
    Sat engine anything i K p (fun _ _ => True) (fun _ _ => True) :=
  (Sat.of_invariant (fun _ _ _ => trivial) fun _ _ _ _ _ _ => trivial).start fun _ _ => trivial

theorem sat_dispatch (it : ClaimedWorkflow) :
    Sat engine anything i (Handed it) (WorkerService.dispatch cfg it) (Answered cfg) fun _ _ =>
      True := by
  have keeps : ∀ {ε α : Type} (p : Prog Stmt Stmt.Result ε α),
      Sat engine anything i (Handed it) p (fun _ => Handed it) fun _ _ => True := fun p =>
    (Sat.of_invariant (fun _ _ _ => trivial) (handed_kept it).restrict).mono (fun _ h => h)
      (fun _ _ h => h)
      fun _ _ _ => trivial
  exact (keeps _).bind fun _ => (keeps _).bind fun _ => fun m hm => .inr ⟨it, hm, rfl⟩

theorem sat_poll {ns taskQueue workerId : String} {types : List String} {secs : Int} :
    Sat engine anything i (fun _ => True) (stmt (.pollWorkflow ns taskQueue workerId types secs))
      (fun found m => ∀ it, found = some it → Handed it m) fun _ _ => True := by
  refine Sat.mapError (X := fun _ _ => True)
    (sat_sql (fun found => Stable.forall fun it => Stable.imp fun _ =>
      (handed_kept it).restrict.stable) fun e m _ _ => ⟨trivial, ?_⟩) fun _ _ _ => trivial
  rintro _ hres it rfl
  exact ⟨_, List.mem_cons_self .., by rw [hres]; rfl⟩

theorem sat_pollLoop (req : PollTaskRequest) (types : List String) (n : Nat) :
    Sat engine anything i (fun _ => True) (WorkerService.pollLoop cfg req types n) (Answered cfg)
      fun _ _ => True := by
  induction n with
  | zero =>
      refine sat_poll.bind fun found => ?_
      cases found with
      | some it => exact (sat_dispatch it).start fun m hm => hm it rfl
      | none => exact fun _ _ => .inl rfl
  | succ n ih =>
      refine sat_poll.bind fun found => ?_
      cases found with
      | some it => exact (sat_dispatch it).start fun m hm => hm it rfl
      | none => exact ih.start fun _ _ => trivial

theorem sat_pollTask (req : PollTaskRequest) (waits : Nat) :
    Sat engine anything i (fun _ => True) (WorkerService.pollTask cfg req waits) (Answered cfg)
      fun _ _ => True := by
  unfold WorkerService.pollTask
  refine (anyway _).bind fun workerId => ?_
  split
  next => exact fun _ _ => trivial
  next =>
    refine (anyway _).bind fun _ => (anyway _).bind fun found => (anyway _).bind fun worker => ?_
    split
    next => exact fun _ _ => trivial
    next =>
      split
      next => exact fun _ _ => trivial
      next =>
        split
        next => exact fun _ _ => trivial
        next =>
          dsimp only
          split
          next => exact fun _ _ => trivial
          next => exact sat_pollLoop req _ waits

/-! ## What the code gives -/

/-- The code ends with this output, when its steps give the stored values. -/
def Gives (codec : Codec V) (runId : Uuid) : WorkflowCode V → V → Now → Prop
  | .ok output, v, _ => v = output
  | .err _, _, _ => False
  | .step s next, v, m => ∃ x, Stored codec runId s.name x m ∧ Gives codec runId (next (.ok x)) v m
  | .sleep _ next, v, m => Gives codec runId (next (.ok ())) v m

variable {codec : Codec V}

theorem stored_kept (stepId : String) (v : V) : Invariant engine (Stored codec runId stepId v) :=
  fun i e q m ⟨output, hmemo, hv⟩ ha => ⟨output, memo_kept runId stepId output i e q m hmemo ha, hv⟩

theorem gives_kept (code : WorkflowCode V) (v : V) :
    Invariant engine (Gives codec runId code v) := by
  induction code with
  | ok output => exact fun _ _ _ _ h _ => h
  | err x => exact fun _ _ _ _ h _ => h
  | step s next ih =>
      rintro i e q m ⟨x, hx, h⟩ ha
      exact ⟨x, stored_kept s.name x i e q m hx ha, ih (.ok x) i e q m h ha⟩
  | sleep s next ih => exact ih (.ok ())

/-- It ends with one output only. -/
theorem Gives.unique {code : WorkflowCode V} {v v' : V} {m : Now} (h : Gives codec runId code v m)
    (h' : Gives codec runId code v' m) : v' = v := by
  induction code with
  | ok output => exact h'.trans h.symm
  | err x => exact h.elim
  | step s next ih =>
      obtain ⟨x, hx, h⟩ := h
      obtain ⟨x', hx', h'⟩ := h'
      obtain rfl := hx.unique hx'
      exact ih _ h h'
  | sleep s next ih => exact ih _ h h'

/-- What the steps do themselves makes no difference. -/
theorem Gives.of_alike {code code' : WorkflowCode V} (ha : Alike code code') {v : V} {m : Now}
    (h : Gives codec runId code' v m) : Gives codec runId code v m := by
  induction ha with
  | ok => exact h
  | err => exact h
  | step hname _ ih =>
      obtain ⟨x, hx, h⟩ := h
      exact ⟨x, hname ▸ hx, ih _ h⟩
  | sleep _ ih => exact ih _ h

theorem sat_perform {s : StepRun V} (hvalue : s.ReadsBack codec) {ctx : Context}
    (hrun : cfg.parseUuid ctx.runId = some runId) :
    Sat engine anything i (fun _ => True) ((s.within ctx).perform cfg codec)
      (fun v => Stored codec runId s.name v) (fun _ _ => True) := by
  have hcall : Sat engine anything i (fun _ => True) ((s.within ctx).call cfg codec)
      (fun v => Stored codec runId s.name v) (fun _ _ => True) := by
    have hreads : (s.within ctx).ReadsBack codec := hvalue
    exact sat_call hreads hrun
  rw [← StepRun.perform_error] at hcall
  exact hcall.of_mapError

/-- Code that ends well ends with what the stored values give. -/
theorem sat_run {ctx : Context} (hrun : cfg.parseUuid ctx.runId = some runId)
    {code : WorkflowCode V} (hcode : code.Propagates)
    (hvalues : ∀ s, code.Calls s → s.ReadsBack codec) :
    Sat engine anything i (fun _ => True) (code.run cfg codec ctx)
      (fun v => Gives codec runId code v) (fun _ _ => True) := by
  induction code with
  | ok output => exact fun _ _ => rfl
  | err x => exact hcode.elim
  | step s next ih =>
      obtain ⟨hok, herror⟩ := hcode
      refine Sat.bind (P := fun r m => ∀ x, r = .ok x → Stored codec runId s.name x m)
        ((sat_perform (hvalues s .here) hrun).attempt (fun x m hx x' h => ?_) fun _ _ _ _ h => ?_) fun r => ?_
      · exact Except.ok.inj h ▸ hx
      · cases h
      · cases r with
        | ok x =>
            have hstored : Invariant engine (Stored codec runId s.name x) := stored_kept s.name x
            have hnext := (ih (.ok x) (hok x) fun s' h => hvalues s' (.afterStep _ h)).frame
              hstored.restrict
            exact hnext.mono (fun m hm => ⟨trivial, hm x rfl⟩) (fun v m hm => ⟨x, hm.2, hm.1⟩)
              fun _ _ _ => trivial
        | error x =>
            rw [herror x]
            exact fun _ _ => trivial
  | sleep s next ih =>
      obtain ⟨hok, herror⟩ := hcode
      refine (anyway _).bind fun r => ?_
      cases r with
      | ok _ => exact ih (.ok ()) hok fun s' h => hvalues s' (.afterSleep _ h)
      | error x =>
          rw [herror x]
          exact fun _ _ => trivial

end Judgements

/-! ## All executions -/

/-- The text of the id of a run is read as that id, and is that of no other run. -/
structure Named (cfg : Config) (runId : Uuid) : Prop where
  reads : cfg.parseUuid (cfg.uuidText runId) = some runId
  only : ∀ id, cfg.uuidText id = cfg.uuidText runId → id = runId

/-- What is known when a poll has ended. -/
def Ended (cfg : Config) (json : Json V) (code : String → V → WorkflowCode V) (reply : Reply V)
    (m : Now) : Prop :=
  ∀ runId workflowType input r, reply = .ended runId workflowType input r →
    (∃ it, Handed it m ∧ runId = cfg.uuidText it.runId ∧ workflowType = it.workflowType ∧
      input = bytesToPayload (some it.input)) ∧
    ∀ id v, cfg.parseUuid runId = some id → r = .ok v →
      Gives json.toCodec id (code workflowType ((json.fromSlice input).getD json.null)) v m

section Ends
variable {cfg : Config} {json : Json V} {code : String → V → WorkflowCode V} {i : Nat}
    {run : PollCall V}

theorem sat_execution {runId : String} {input : Payload} {handler : V → WorkflowCode V}
    {c : WorkflowCode V} (halike : Alike c (handler ((json.fromSlice input).getD json.null)))
    (hcode : (handler ((json.fromSlice input).getD json.null)).Propagates)
    (hvalues : ∀ s, (handler ((json.fromSlice input).getD json.null)).Calls s →
      s.ReadsBack json.toCodec) :
    Sat engine anything i (fun _ => True)
      (((run.execution json runId input handler).code.run cfg json.toCodec
        (run.execution json runId input handler).ctx).attempt : Call (Except WorkflowError V))
      (fun r m => ∀ id v, cfg.parseUuid runId = some id → r = .ok v → Gives json.toCodec id c v m)
      fun _ _ => True := by
  cases hid : cfg.parseUuid runId with
  | none =>
      refine (anyway _).mono (fun _ h => h) (fun r m _ id v h => ?_) fun _ _ h => h
      cases h
  | some id =>
      refine (sat_run hid hcode hvalues).attempt (fun v m hm id' v' h hv => ?_) fun x m _ id' v' _ hv => ?_
      · obtain rfl := Option.some.inj h
        obtain rfl := Except.ok.inj hv
        exact hm.of_alike halike
      · cases hv

theorem sat_accepted (hrun : Executes json.toCodec code run) (resp : Response) :
    Sat engine anything i (Answered cfg resp) (accepted cfg json run resp) (Ended cfg json code)
        fun _ _ => True := by
  have idle : ∀ m, Answered cfg resp m → Ended cfg json code .idle m :=
    fun _ _ _ _ _ _ h => by cases h
  cases resp with
  | pollTask runId workflowType input =>
      unfold accepted
      dsimp only
      split
      next => exact idle
      next hne =>
        cases hlookup : run.workflows.lookup workflowType with
        | none => exact idle
        | some handler =>
            obtain ⟨halike, hcode, hvalues⟩ :=
              hrun workflowType handler hlookup ((json.fromSlice input).getD json.null)
            -- the response is not the empty one
            have hstart : ∀ m, Answered cfg (.pollTask runId workflowType input) m →
                True ∧ ∃ it, Handed it m ∧ runId = cfg.uuidText it.runId ∧
                  workflowType = it.workflowType ∧
                  input = bytesToPayload (some it.input) := by
              rintro m (hresp | ⟨it, hit, hresp⟩)
              · exact absurd (Response.pollTask.inj hresp).1 hne
              · obtain ⟨hid, hname, hinput⟩ := Response.pollTask.inj hresp
                exact ⟨trivial, it, hit, hid, hname, hinput⟩
            have hhanded : Invariant engine fun m =>
                ∃ it, Handed it m ∧ runId = cfg.uuidText it.runId ∧
                workflowType = it.workflowType ∧ input = bytesToPayload (some it.input) :=
              fun j e q m ⟨it, hit, h⟩ ha => ⟨it, handed_kept it j e q m hit ha, h⟩
            refine ((sat_execution halike hcode hvalues).frame hhanded.restrict).mono hstart
              (fun _ _ h => h)
              (fun _ _ _ => trivial) |>.bind fun r => ?_
            have hends : Invariant engine fun m =>
              (∀ id v, cfg.parseUuid runId = some id → r = .ok v →
                Gives json.toCodec id (code workflowType ((json.fromSlice input).getD json.null)) v
                  m) ∧
                ∃ it, Handed it m ∧ runId = cfg.uuidText it.runId ∧ workflowType = it.workflowType ∧
                  input = bytesToPayload (some it.input) :=
              fun j e q m h ha => ⟨fun id v hid hv => gives_kept _ v j e q m (h.1 id v hid hv) ha,
                hhanded j e q m h.2 ha⟩
            refine ((Sat.of_invariant (fun _ _ _ => trivial) hends.restrict).mono (fun _ h => h)
              (fun _ _ h => h)
              fun _ _ _ => trivial).bind fun _ => ?_
            rintro m ⟨hgives, hit⟩ runId' workflowType' input' r' hreply
            obtain ⟨rfl, rfl, rfl, rfl⟩ := Reply.ended.inj hreply
            exact ⟨hit, hgives⟩
  | _ => exact idle

theorem sat_polled (hrun : Executes json.toCodec code run) :
    Sat engine anything i (fun _ => True) (polled cfg json run) (Ended cfg json code) fun _ _ =>
      True := by
  have idle : ∀ m, Ended cfg json code .idle m := fun _ _ _ _ _ h => by cases h
  unfold polled
  refine Sat.bind (P := fun found m => ∀ resp, found = .ok resp → Answered cfg resp m)
    ((sat_pollTask run.request run.waits).attempt (fun resp m hm resp' h => ?_) fun _ _ _ _ h => ?_)
      fun found => ?_
  · exact Except.ok.inj h ▸ hm
  · cases h
  · cases found with
    | error x => exact fun m _ => idle m
    | ok resp =>
        dsimp only
        split
        next => exact fun m _ => idle m
        next => exact (sat_accepted hrun resp).start fun m hm => hm resp rfl

end Ends

/-- In an orderly run all executions of a run that end well end with the same output, which is the
one that the code gives on the stored values of its steps.  They are executions of the same
type, with the same input. -/
theorem executions_agree (cfg : Config) (json : Json V) (code : String → V → WorkflowCode V)
    {start : Int} {p : State V}
    (h : Steps ((service cfg json code).restrict Orderly) (.init (.empty start) []) p)
    {runId : Uuid} (hname : Named cfg runId) {i j : Nat} {run run' : PollCall V}
    {workflowType workflowType' : String} {input input' : Payload} {v v' : V}
    (hget : p.calls[i]? =
      some (.poll run, .ret (.ended (cfg.uuidText runId) workflowType input (.ok v))))
    (hget' : p.calls[j]? =
      some (.poll run', .ret (.ended (cfg.uuidText runId) workflowType' input' (.ok v')))) :
    workflowType' = workflowType ∧ input' = input ∧ v' = v ∧
      Gives json.toCodec runId (code workflowType ((json.fromSlice input).getD json.null)) v
          p.toMoment := by
  have hserves : Serves ((service cfg json code).restrict Orderly) anything (fun _ => True)
      (fun _ traffic reply m => ∀ run, traffic = .poll run → Ended cfg json code reply m)
      (fun _ _ _ _ => True) := by
    intro i traffic haccepts
    refine ⟨fun _ => True, stable_true, fun _ _ _ => trivial, ?_⟩
    cases traffic with
    | request req =>
        exact (anyway _).mono (fun _ h => h) (fun _ _ _ _ h => by cases h) fun _ _ h => h
    | poll run =>
        exact (sat_polled haccepts).mono (fun _ h => h) (fun _ _ h _ _ => h) fun _ _ h => h
  obtain ⟨-, hsound⟩ := h.sound hserves (fun _ _ _ _ _ _ => trivial) trivial (sound_nil _)
  have hlasting : Lasting p.toMoment := by
    refine h.invariant (lasting_kept.restrict (C := Orderly)) ⟨?_, ?_, ?_⟩
    · intro id payload hpayload
      cases hpayload
    · intro ran hran
      cases hran
    · intro ran hran
      cases hran
  obtain ⟨⟨it, ⟨ran, hran, hit⟩, hid, rfl, rfl⟩, hgives⟩ := hsound.result hget run rfl _ _ _ _ rfl
  obtain ⟨⟨it', ⟨ran', hran', hit'⟩, hid', rfl, rfl⟩, hgives'⟩ :=
    hsound.result hget' run' rfl _ _ _ _ rfl
  obtain rfl := hname.only it.runId hid.symm
  obtain ⟨htype, hinput⟩ := hlasting.agree ran hran it hit ran' hran' it' hit'
      (hname.only it'.runId hid'.symm)
  have hv := hgives _ v hname.reads rfl
  have hv' := hgives' _ v' hname.reads rfl
  rw [htype, hinput] at hv'
  exact ⟨htype, by rw [hinput], hv.unique hv', hv⟩

/-! ## An execution that is repeated -/

/-- The code of a workflow with one step. -/
def charging (outcome : Bool) : WorkflowCode Bool :=
  .step ⟨"", "", "charge", none, .ok outcome, false, [], false⟩ fun
    | .ok v => .ok v
    | .error x => .err (.context x)

/-- A poll of its worker. -/
def worker (outcome reportLost : Bool) : PollCall Bool :=
  ⟨"ns", "queue", "2", [("type", fun _ => charging outcome)], none, 0, fun _ => false,
    fun _ => reportLost⟩

def booleans : Json Bool := { Codec.bool with null := false, display := fun _ => "" }

abbrev sampleService : Service Stmt Stmt.Result World Env (Traffic Bool) StepError (Reply Bool) :=
  (service .sample booleans fun _ _ => charging true).restrict Orderly

/-- A request or a poll arrives. -/
def arrives (traffic : Traffic Bool) (p : State Bool) : State Bool :=
  ⟨p.toMoment, p.calls ++ [(traffic, sampleService.spawn traffic)]⟩

def requested : State Bool :=
  fireAll sampleService (arrives (.request
    (.startWorkflow ⟨"job", "queue", "type", none, "ns", "", none⟩))
    (.init (.empty 0) [])) (runs 0 6 (.quiet 0 1))

def registered : State Bool :=
  fireAll sampleService (arrives (.request (.register ⟨"ns", "queue", ["type"], "host", 7, ""⟩))
    requested)
    (runs 1 1 (.quiet 0 2))

/-- The first execution, whose report is lost. -/
def executed : State Bool :=
  fireAll sampleService (arrives (.poll (worker true true)) registered)
    (runs 2 7 (.quiet 0 3) ++ runs 2 12 (.quiet 0 4))

/-- The second execution, a minute later.  The code of its step would give another value. -/
def executedAgain : State Bool :=
  fireAll sampleService (arrives (.poll (worker false false)) executed)
    (runs 3 7 (.quiet 61 5) ++ runs 3 8 (.quiet 61 6))

theorem executes_worker (outcome reportLost : Bool) :
    Executes .bool (fun _ _ => charging true) (worker outcome reportLost) := by
  intro name handler hlookup input
  have hhandler : handler = fun _ => charging outcome := by
    unfold worker at hlookup
    rw [List.lookup_cons] at hlookup
    split at hlookup
    next => exact (Option.some.inj hlookup).symm
    next => cases hlookup
  subst hhandler
  refine ⟨.step rfl fun r => ?_, ⟨fun v => trivial, fun x => rfl⟩,
    fun s _ v _ => Codec.bool_readsBack v⟩
  cases r with
  | ok v => exact .ok
  | error x => exact .err

open scoped Classical in
theorem executedAgain_steps : Steps sampleService (.init (.empty 0) []) executedAgain := by
  have hrequested : Steps sampleService (arrives (.request (.startWorkflow
      ⟨"job", "queue", "type", none, "ns", "", none⟩)) (.init (.empty 0) [])) requested :=
    AllEnabled.steps (by decide +kernel)
  have hregistered : Steps sampleService (arrives (.request (.register
      ⟨"ns", "queue", ["type"], "host", 7, ""⟩)) requested) registered :=
    AllEnabled.steps (by decide +kernel)
  have hexecuted : Steps sampleService (arrives (.poll (worker true true)) registered) executed :=
    AllEnabled.steps (by decide +kernel)
  have hagain : Steps sampleService (arrives (.poll (worker false false)) executed) executedAgain :=
    AllEnabled.steps (by decide +kernel)
  have hasked : ∀ req p, Steps sampleService p (arrives (.request req) p) := fun req p =>
    .single (.start trivial)
  have hpolled : ∀ outcome reportLost p, Steps sampleService p
      (arrives (.poll (worker outcome reportLost)) p) :=
    fun outcome reportLost p => .single (.start (executes_worker outcome reportLost))
  exact (((((((hasked ..).trans hrequested).trans (hasked ..)).trans hregistered).trans
    (hpolled ..)).trans
    hexecuted).trans (hpolled ..)).trans hagain

/-- The output of an execution that has ended well. -/
def outputOf (p : State Bool) (i : Nat) : Option (String × String × Payload × Bool) :=
  match p.calls[i]? with
  | some (.poll _, .ret (.ended runId workflowType input (.ok v))) =>
    some (runId, workflowType, input, v)
  | _ => none

theorem get_of_outputOf {p : State Bool} {i : Nat} {runId workflowType : String} {input : Payload}
    {v : Bool} (h : outputOf p i = some (runId, workflowType, input, v)) :
    ∃ run, p.calls[i]? = some (.poll run, .ret (.ended runId workflowType input (.ok v))) := by
  unfold outputOf at h
  split at h
  next run runId' workflowType' input' v' hget =>
    simp only [Option.some.injEq, Prod.mk.injEq] at h
    obtain ⟨rfl, rfl, rfl, rfl⟩ := h
    exact ⟨run, hget⟩
  next => cases h

theorem executions_agree_again : ∃ run run' v v',
    executedAgain.calls[2]? = some (.poll run, .ret (.ended "1" "type" [] (.ok v))) ∧
    executedAgain.calls[3]? = some (.poll run', .ret (.ended "1" "type" [] (.ok v'))) ∧ v' = v := by
  have hfirst : outputOf executedAgain 2 = some ("1", "type", [], true) := by decide +kernel
  have hsecond : outputOf executedAgain 3 = some ("1", "type", [], true) := by decide +kernel
  obtain ⟨run, hget⟩ := get_of_outputOf hfirst
  obtain ⟨run', hget'⟩ := get_of_outputOf hsecond
  have hname : Named .sample 1 := by
    refine ⟨rfl, fun id h => ?_⟩
    by_cases hid : id < 10
    · have hdigits : ∀ id < 10, Config.sample.uuidText id = Config.sample.uuidText 1 → id = 1 := by
        decide
      exact hdigits id hid h
    · have htext : Config.sample.uuidText id = "" := List.getD_eq_default _ _ (by simpa using hid)
      rw [htext] at h
      exact absurd h (by decide)
  obtain ⟨-, -, hv, -⟩ := executions_agree .sample booleans (fun _ _ => charging true)
    executedAgain_steps hname hget hget'
  exact ⟨run, run', _, _, hget, hget', hv⟩

end Durable

end Kagzi
