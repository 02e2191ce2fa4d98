import Kagzi.Custody
import Kagzi.Logic.Attempts
import Kagzi.Sdk.Builder
import Kagzi.Store.StepChange

/-!
# A step that always fails

Workers run a workflow whose step fails each time it is executed, next to any other
requests.  In the calm runs, where nothing crashes and nobody interferes, the run is
held by the execution whose poll took it last.  What the store shows of the step is
then a state of its life (`Shows`): each execution takes the next attempt number, and
whether there is another one is decided by the policy the server has merged.

What the holder does with the run is followed through the handlers of `BeginStep`
(`sat_beginStep`) and `FailStep` (`sat_failStep`).
-/

namespace Kagzi

open Atomic Attempts

namespace Budget

open Custody Sdk Unexecuted Sleeping

/-! ## A step that always fails -/

/-- A run of a workflow, and the step of it that always fails. -/
structure Subject where
  runId : Uuid
  ns : String
  workflowType : String
  /-- The policy of the run, in its column. -/
  workflowPolicy : Option StoredPolicy
  /-- The name of the step. -/
  name : String
  /-- What is set on the step, or is the default of the worker. -/
  retry : Retry

namespace Subject

/-- The policy that the server stores with the step. -/
def stored (s : Subject) : Option StoredPolicy :=
  (mergeProtoPolicy (some s.retry.toProto) (readPolicy s.workflowPolicy)).map ProtoPolicy.toValue

/-- The policy that the server reads of the step. -/
def policy (s : Subject) : RetryPolicy := (readPolicy s.stored).getD .default

/-- The policy of the step comes before that of the run. -/
@[simp] theorem stored_or (s : Subject) (column : Option StoredPolicy) :
    s.stored.or column = s.stored := rfl

/-- Whether the step is tried again after `k` attempts. -/
def again (s : Subject) (k : Nat) : Bool := s.policy.shouldRetry k

/-- An error that is to be tried again. -/
def Retryable (s : Subject) (e : Failure) : Prop :=
  e.toKagzi.nonRetryable = false ∧ s.policy.isNonRetryable e.toKagzi.message = false

/-- The code runs the step first, which fails, and hands its error on. -/
def Fails {V : Type} (s : Subject) (defaultRetry : Option ProtoPolicy) (code : WorkflowCode V) :
    Prop :=
  ∃ run next e, code = .step run next ∧ run.name = s.name ∧
    run.retry.or defaultRetry = some s.retry.toProto ∧ run.outcome = .error e ∧ s.Retryable e ∧
    run.beginLost = false ∧ run.failLost = false ∧ ∀ x, next (.error x) = .err (.context x)

/-- The worker runs such code for the type of the run, and no response is lost. -/
def Works {V : Type} (s : Subject) (run : PollCall V) : Prop :=
  (∀ handler, run.workflows.lookup s.workflowType = some handler →
    ∀ v, s.Fails run.defaultRetry (handler v)) ∧
  (∀ resp, run.responseLost resp = false) ∧ ∀ r, run.reportLost r = false

/-- The id of the run can be read back. -/
def Named (s : Subject) (cfg : Config) : Prop :=
  cfg.parseUuid (cfg.uuidText s.runId) = some s.runId ∧ cfg.uuidText s.runId ≠ ""

end Subject

/-! ## The service -/

/-- A request, or a poll of a worker with the execution that follows. -/
inductive Traffic (V : Type) where
  | request (req : Request)
  | poll (run : PollCall V)

/-- The server and workers that run the step.  Nobody else polls. -/
def service {V : Type} (cfg : Config) (json : Json V) (s : Subject) :
    Service Stmt Stmt.Result World Env (Traffic V) StepError Unit :=
  { store with
    spawn := fun
      | .request req => (handle cfg req).mapError .status >>= fun _ => .ret ()
      | .poll run => run.call cfg json
    accepts := fun
      | .request req => ∀ r waits, req ≠ .pollTask r waits
      | .poll run => s.Works run }

/-- The caller holds the run. -/
def Holds (runId : Uuid) (i : Nat) (m : Now) : Prop :=
  taker runId m.trace = some i ∧ m.store.HasStatus runId .running

/-- The columns of a run that matter here. -/
def columns (r : RunRow) : WorkflowStatus × String × String × Option StoredPolicy :=
  (r.status, r.ns, r.workflowType, r.retryPolicy)

/-- The stores agree on the run and its step. -/
structure Same (s : Subject) (w w' : World) : Prop where
  row : (w'.run s.runId).map columns = (w.run s.runId).map columns
  latest : w'.latest s.runId s.name = w.latest s.runId s.name
  next : w'.db.nextAttempt s.runId s.name = w.db.nextAttempt s.runId s.name

/-- Nothing crashes, and nobody interferes: no poll takes the run while it is running,
only its holder changes it and its step, and no statement of its holder fails. -/
def Calm (s : Subject) : Condition Stmt Stmt.Result World Env := fun i e q m =>
  (handed ⟨i, e, q, (store.exec e q m.store).1⟩ = some s.runId →
    ¬ m.store.HasStatus s.runId .running) ∧
  (handed ⟨i, e, q, (store.exec e q m.store).1⟩ ≠ some s.runId →
    Same s m.store (store.exec e q m.store).2 ∨ Holds s.runId i m) ∧
  (Holds s.runId i m → ∃ a, (store.exec e q m.store).1 = .ok a)

instance (s : Subject) (w w' : World) : Decidable (Same s w w') :=
  decidable_of_iff ((w'.run s.runId).map columns = (w.run s.runId).map columns ∧
      w'.latest s.runId s.name = w.latest s.runId s.name ∧
      w'.db.nextAttempt s.runId s.name = w.db.nextAttempt s.runId s.name)
    ⟨fun h => ⟨h.1, h.2.1, h.2.2⟩, fun h => ⟨h.row, h.latest, h.next⟩⟩

instance (runId : Uuid) (i : Nat) (m : Now) : Decidable (Holds runId i m) :=
  inferInstanceAs (Decidable (_ ∧ _))

instance (s : Subject) (i : Nat) (e : Env) (q : Stmt) (m : Now) : Decidable (Calm s i e q m) :=
  haveI : Decidable (∃ a, (store.exec e q m.store).1 = .ok a) :=
    match (store.exec e q m.store).1 with
    | .ok a => .isTrue ⟨a, rfl⟩
    | .error _ => .isFalse nofun
  inferInstanceAs (Decidable ((_ → _) ∧ (_ → _ ∨ _) ∧ (_ → _)))

instance {V : Type} (cfg : Config) (json : Json V) (s : Subject) (i : Nat) (e : Env) (q : Stmt)
    (m : Now) : Decidable ((service cfg json s).admits i e q m) :=
  inferInstanceAs (Decidable (store.admits i e q m))

abbrev State (V : Type) := Pool Stmt Stmt.Result World Env (Traffic V) StepError Unit

/-! ## Executions -/

/-- The statement begins an execution of the step. -/
abbrev Executes (s : Subject) (ran : Ran) : Prop := Begins s.runId s.name ran

/-- How often the code of the step was executed. -/
def executions (s : Subject) (trace : List Ran) : Nat :=
  trace.countP fun ran => decide (Executes s ran)

/-! ## What the store shows of the life of the step -/

/-- The status of a run in a phase of the life of its step. -/
def statusIn : Phase → WorkflowStatus
  | .waiting => .pending
  | .taken => .running
  | .tried => .running
  | .ended => .failed

/-- The latest attempt of the step after `k` attempts. -/
def LatestAfter (s : Subject) (k : Nat) (latest : Option StepRow) : Prop :=
  match k with
  | 0 => latest = none
  | k + 1 => ∃ a, latest = some a ∧ a.attemptNumber = k + 1 ∧ a.retryPolicy = s.stored ∧
      a.stepKind = .function ∧ a.status ≠ .completed

/-- The step was tried `k` times, and its life is in the phase. -/
structure Shows (s : Subject) (k : Nat) (phase : Phase) (m : Now) : Prop where
  life : Life s.again k phase
  row : (m.store.run s.runId).map columns =
    some (statusIn phase, s.ns, s.workflowType, s.workflowPolicy)
  next : m.store.db.nextAttempt s.runId s.name = k + 1
  latest : LatestAfter s k (m.store.latest s.runId s.name)
  count : executions s m.trace = k
  taken : statusIn phase = .running → ∃ i, taker s.runId m.trace = some i

/-- The step is somewhere in its life. -/
def Living (s : Subject) (m : Now) : Prop := ∃ k phase, Shows s k phase m

/-- The caller holds the run, the step was tried `k` times, and its latest attempt
satisfies `R`. -/
structure At (s : Subject) (i k : Nat) (phase : Phase) (R : Option StepRow → Prop) (m : Now) :
    Prop where
  taker : taker s.runId m.trace = some i
  running : statusIn phase = .running
  shows : Shows s k phase m
  latest : R (m.store.latest s.runId s.name)

/-- The caller does not hold the run. -/
def Idle (s : Subject) (i : Nat) (m : Now) : Prop := Living s m ∧ ¬ Holds s.runId i m

/-- Every statement leaves the step in its life. -/
def Γ (s : Subject) : Condition Stmt Stmt.Result World Env := fun i e q m =>
  Living s m → Living s (m.after store i e q)

/-- The engine of the calm runs. -/
abbrev engine (s : Subject) : Engine Stmt Stmt.Result World Env := store.restrict (Calm s)

section Frame
variable {s : Subject} {i j k : Nat} {phase : Phase} {R : Option StepRow → Prop}
variable {e : Env} {q : Stmt} {m : Now}

theorem hasStatus_of_columns {w : World} {runId : Uuid} {status : WorkflowStatus}
    {rest : String × String × Option StoredPolicy}
    (h : (w.run runId).map columns = some (status, rest)) : w.HasStatus runId status := by
  obtain ⟨r, hr, hcols⟩ := Option.map_eq_some_iff.mp h
  exact ⟨r, hr, (Prod.mk.inj hcols).1⟩

theorem columns_of_hasStatus {w : World} {runId : Uuid} {status status' : WorkflowStatus}
    {rest : String × String × Option StoredPolicy} (h : w.HasStatus runId status)
    (h' : (w.run runId).map columns = some (status', rest)) : status' = status := by
  obtain ⟨r, hr, hstatus⟩ := h
  rw [hr] at h'
  exact ((Prod.mk.inj (Option.some.inj h')).1.symm.trans hstatus)

theorem Same.hasStatus {w w' : World} {status : WorkflowStatus} (h : Same s w w')
    (hw' : w'.HasStatus s.runId status) : w.HasStatus s.runId status := by
  obtain ⟨r', hr', hstatus⟩ := hw'
  have hrow := h.row
  rw [hr'] at hrow
  obtain ⟨r, hr, hcols⟩ := Option.map_eq_some_iff.mp hrow.symm
  exact ⟨r, hr, (Prod.mk.inj hcols).1.trans hstatus⟩

/-- A statement that begins an execution inserts the next attempt. -/
theorem inserted_of_executes (h : Executes s ⟨i, e, q, (store.exec e q m.store).1⟩) :
    ∃ step ns, q.inserted = some step ∧ step.runId = s.runId ∧ step.stepId = s.name ∧
      step.status = .running ∧
      (store.exec e q m.store).2.db.nextAttempt s.runId s.name =
        m.store.db.nextAttempt s.runId s.name + 1 ∧
      (store.exec e q m.store).2.latest s.runId s.name =
        some (step.row ns (m.store.db.nextAttempt s.runId s.name) e.began) := by
  cases q with
  | supersede step =>
      cases hres : (store.exec e (.supersede step) m.store).1 with
      | error x => rw [hres] at h; cases h
      | ok hit =>
          cases hit with
          | false => rw [hres] at h; cases h
          | true =>
              rw [hres] at h
              obtain ⟨hrun, hname, hstatus⟩ := opens_iff.mp h
              have hstmt : ((Stmt.supersede step).exec e m.store.db).1 = .ok true := hres
              have hsql := Stmt.exec_ok hstmt
              rw [hsql] at hstmt
              obtain ⟨hnext, ns, hlatest⟩ := supersede_next hstmt
              rw [hrun, hname] at hnext hlatest
              refine ⟨step, ns, rfl, hrun, hname, hstatus, ?_, ?_⟩
              · rw [store_exec_db, hsql]
                exact hnext
              · rw [store_exec_latest, hsql]
                exact hlatest
  | insertStep step =>
      cases hres : (store.exec e (.insertStep step) m.store).1 with
      | error x => rw [hres] at h; cases h
      | ok u =>
          rw [hres] at h
          obtain ⟨hrun, hname, hstatus⟩ := opens_iff.mp h
          have hstmt : ((Stmt.insertStep step).exec e m.store.db).1 = .ok u := hres
          have hsql := Stmt.exec_ok hstmt
          rw [hsql] at hstmt
          obtain ⟨hnext, ns, hlatest⟩ := insertStep_next hstmt
          rw [hrun, hname] at hnext hlatest
          refine ⟨step, ns, rfl, hrun, hname, hstatus, ?_, ?_⟩
          · rw [store_exec_db, hsql]
            exact hnext
          · rw [store_exec_latest, hsql]
            exact hlatest
  | _ => cases h

/-- The trace after a statement that is no execution. -/
theorem executions_cons (ran : Ran) (trace : List Ran) :
    executions s (ran :: trace) = executions s trace + if Executes s ran then 1 else 0 := by
  simp [executions, List.countP_cons]

/-- A statement that changes neither the run nor its step changes nothing that is
shown. -/
theorem Shows.same (h : Shows s k phase m) (hsame : Same s m.store (store.exec e q m.store).2)
    (hhanded : handed ⟨i, e, q, (store.exec e q m.store).1⟩ ≠ some s.runId) :
    Shows s k phase (m.after store i e q) where
  life := h.life
  row := hsame.row.trans h.row
  next := hsame.next.trans h.next
  latest := by
    have hlatest := h.latest
    rwa [← hsame.latest] at hlatest
  count := by
    have hexec : ¬ Executes s ⟨i, e, q, (store.exec e q m.store).1⟩ := by
      intro hexec
      obtain ⟨_, _, _, _, _, _, hnext, _⟩ := inserted_of_executes hexec
      have := hsame.next
      omega
    rw [Moment.after_trace, executions_cons, if_neg hexec, h.count]
    rfl
  taken := by
    intro hrunning
    rw [Moment.after_trace, taker_cons _ _ hhanded]
    exact h.taken hrunning

/-- A run that is held is running. -/
theorem At.holds (h : At s i k phase R m) : Holds s.runId i m :=
  ⟨h.taker, hasStatus_of_columns (h.running ▸ h.shows.row)⟩

/-- A poll does not take a run that is held. -/
theorem At.not_handed (h : At s i k phase R m) (ha : Calm s j e q m) :
    handed ⟨j, e, q, (store.exec e q m.store).1⟩ ≠ some s.runId :=
  fun hhanded => ha.1 hhanded h.holds.2

/-- What the holder knows, the others leave alone. -/
theorem stable_at : Stable (engine s) (Γ s) i (At s i k phase R) := by
  intro j e q m hj hm ha _
  have hhanded := hm.not_handed ha.2
  have hsame : Same s m.store (store.exec e q m.store).2 := by
    rcases ha.2.2.1 hhanded with hsame | ⟨htaker, -⟩
    · exact hsame
    · rw [hm.taker] at htaker
      exact absurd (Option.some.inj htaker).symm hj
  refine ⟨?_, hm.running, hm.shows.same hsame hhanded, ?_⟩
  · exact (taker_cons _ _ hhanded).trans hm.taker
  · have hlatest := hm.latest
    rw [← hsame.latest] at hlatest
    exact hlatest

/-- A caller comes to hold the run by taking it only. -/
theorem not_holds_after (hm : ¬ Holds s.runId i m) (ha : Calm s j e q m)
    (hown : j = i → handed ⟨j, e, q, (store.exec e q m.store).1⟩ ≠ some s.runId) :
    ¬ Holds s.runId i (m.after store j e q) := by
  rintro ⟨htaker, hrunning⟩
  rw [Moment.after_trace] at htaker
  by_cases hhanded : handed ⟨j, e, q, (store.exec e q m.store).1⟩ = some s.runId
  · rw [taker, if_pos hhanded] at htaker
    exact hown (Option.some.inj htaker) hhanded
  · rw [taker_cons _ _ hhanded] at htaker
    rcases ha.2.1 hhanded with hsame | ⟨htaker', hrunning'⟩
    · exact hm ⟨htaker, hsame.hasStatus hrunning⟩
    · exact hm ⟨htaker, hrunning'⟩

theorem stable_idle : Stable (engine s) (Γ s) i (Idle s i) :=
  fun _ _ _ _ hj hm ha hΓ => ⟨hΓ hm.1, not_holds_after hm.2 ha.2 fun h => absurd h hj⟩

/-- A statement of a caller that does not hold the run and does not take it. -/
theorem Idle.after (hm : Idle s i m) (ha : Calm s i e q m)
    (hhanded : handed ⟨i, e, q, (store.exec e q m.store).1⟩ ≠ some s.runId) :
    Γ s i e q m ∧ Idle s i (m.after store i e q) := by
  have hliving : Living s (m.after store i e q) := by
    obtain ⟨k, phase, hshows⟩ := hm.1
    rcases ha.2.1 hhanded with hsame | hholds
    · exact ⟨k, phase, hshows.same hsame hhanded⟩
    · exact absurd hholds hm.2
  exact ⟨fun _ => hliving, hliving, not_holds_after hm.2 ha fun _ => hhanded⟩

/-- The statement writes neither the run nor the step. -/
def Neutral (s : Subject) : Stmt → Prop
  | .supersede step => step.stepId ≠ s.name
  | .insertStep step => step.stepId ≠ s.name
  | .recordLatestStep _ stepId _ _ _ => stepId ≠ s.name
  | .completePendingSleeps _ => True
  | q => q.sparesRuns = true ∧ q.sparesSteps = true

theorem Neutral.sparesRuns (hq : Neutral s q) : q.sparesRuns = true := by
  cases q with
  | supersede _ => rfl
  | insertStep _ => rfl
  | recordLatestStep _ _ _ _ _ => rfl
  | completePendingSleeps _ => rfl
  | _ => exact hq.1

theorem Neutral.run (hq : Neutral s q) (e : Env) (db : Db) (runId : Uuid) :
    (q.exec e db).2.run runId = db.run runId := by
  rcases q.exec_cases e db with h | h
  · rw [h]
  · rw [h]
    exact Db.run_congr (q.sql_sparesRuns hq.sparesRuns e db).runs runId

/-- A neutral statement leaves the step alone, whose latest attempt is no sleep. -/
theorem Neutral.latest (hq : Neutral s q)
    (hkind : ∀ a, m.store.latest s.runId s.name = some a → a.stepKind = .function) :
    (store.exec e q m.store).2.latest s.runId s.name = m.store.latest s.runId s.name := by
  have hc := q.exec_step e m.store.db s.runId s.name
  rw [store_exec_latest]
  show (q.exec e m.store.db).2.latest s.runId s.name = m.store.db.latest s.runId s.name
  generalize hnew : (q.exec e m.store.db).2.latest s.runId s.name = new at hc ⊢
  generalize hold : m.store.db.latest s.runId s.name = old at hc ⊢
  cases hc with
  | same => rfl
  | inserted => exact absurd (isLatestOf_iff.mp (Db.isLatestOf_of_latest hnew)).2.1 hq
  | superseded => exact absurd (isLatestOf_iff.mp (Db.isLatestOf_of_latest hnew)).2.1 hq
  | completed _ => exact absurd hq.2 nofun
  | failed _ => exact absurd hq.2 nofun
  | failedLatest => exact absurd hq.2 nofun
  | woken hsleep _ =>
      have hfunction := hkind _ hold
      rw [hsleep] at hfunction
      cases hfunction
  | recorded => exact absurd (isLatestOf_iff.mp (Db.isLatestOf_of_latest hold)).2.1 hq

theorem Neutral.next (hq : Neutral s q) :
    (store.exec e q m.store).2.db.nextAttempt s.runId s.name =
      m.store.db.nextAttempt s.runId s.name := by
  rw [store_exec_db]
  cases q.exec_numbered e m.store.db s.runId s.name with
  | kept h => exact h
  | @inserted step _ hstep _ hname _ _ =>
      cases q with
      | supersede step' =>
          obtain rfl := Option.some.inj hstep
          exact absurd hname hq
      | insertStep step' =>
          obtain rfl := Option.some.inj hstep
          exact absurd hname hq
      | _ => cases hstep

theorem Shows.function (h : Shows s k phase m) {a : StepRow}
    (ha : m.store.latest s.runId s.name = some a) : a.stepKind = .function := by
  have hlatest := h.latest
  rw [ha] at hlatest
  cases k with
  | zero => cases hlatest
  | succ k =>
      obtain ⟨a', ha', -, -, hkind, -⟩ := hlatest
      obtain rfl := Option.some.inj ha'
      exact hkind

theorem Neutral.same (hq : Neutral s q) (h : Shows s k phase m) :
    Same s m.store (store.exec e q m.store).2 where
  row := congrArg _ (hq.run e m.store.db s.runId)
  latest := hq.latest fun _ ha => h.function ha
  next := hq.next

/-- A statement of the holder that changes neither the run nor the step. -/
theorem At.same (hm : At s i k phase R m) (ha : Calm s i e q m)
    (hsame : Same s m.store (store.exec e q m.store).2) :
    At s i k phase R (m.after store i e q) := by
  have hhanded := hm.not_handed ha
  refine ⟨(taker_cons _ _ hhanded).trans hm.taker, hm.running, hm.shows.same hsame hhanded, ?_⟩
  have hlatest := hm.latest
  rwa [← hsame.latest] at hlatest

theorem At.neutral (hm : At s i k phase R m) (hq : Neutral s q) (ha : Calm s i e q m) :
    At s i k phase R (m.after store i e q) :=
  hm.same ha (hq.same hm.shows)

theorem same_of_db (h : (q.exec e m.store.db).2 = m.store.db) :
    Same s m.store (store.exec e q m.store).2 where
  row := by rw [store_exec_run, h]; rfl
  latest := by rw [store_exec_latest, h]; rfl
  next := by rw [store_exec_db, h]

theorem living_of_shows (h : Shows s k phase m) : Living s m := ⟨k, phase, h⟩

/-- The row of a run that is held. -/
theorem At.row (hm : At s i k phase R m) :
    ∃ r, m.store.db.run s.runId = some r ∧ r.status = .running ∧ r.ns = s.ns ∧
      r.workflowType = s.workflowType ∧ r.retryPolicy = s.workflowPolicy := by
  obtain ⟨r, hr, hcols⟩ := Option.map_eq_some_iff.mp hm.shows.row
  simp only [columns, Prod.mk.injEq, hm.running] at hcols
  exact ⟨r, hr, hcols⟩

/-- The latest attempt is running. -/
def Open (latest : Option StepRow) : Prop := ∃ a, latest = some a ∧ a.status = .running

/-- The holder begins an execution. -/
theorem At.executed (hm : At s i k .taken R m) (ha : Calm s i e q m)
    (h : Executes s ⟨i, e, q, (store.exec e q m.store).1⟩) (hspare : q.sparesRuns = true)
    (hstep : ∀ step, q.inserted = some step →
      step.retryPolicy = s.stored ∧ step.stepKind = .function) :
    At s i (k + 1) .tried Open (m.after store i e q) := by
  have hhanded := hm.not_handed ha
  obtain ⟨step, ns, hins, -, -, hstatus, hnext, hlatest⟩ := inserted_of_executes h
  obtain ⟨hpolicy, hkind⟩ := hstep step hins
  have hrow : (store.exec e q m.store).2.run s.runId = m.store.run s.runId := by
    rw [store_exec_run]
    rcases q.exec_cases e m.store.db with hx | hx
    · rw [hx]; rfl
    · rw [hx]; exact Db.run_congr (q.sql_sparesRuns hspare e _).runs _
  refine ⟨(taker_cons _ _ hhanded).trans hm.taker, rfl, ?_, ⟨_, hlatest, hstatus⟩⟩
  refine ⟨.attempt hm.shows.life, ?_, ?_, ⟨_, hlatest, ?_, hpolicy, hkind, ?_⟩, ?_, ?_⟩
  · exact (congrArg _ hrow).trans hm.shows.row
  · rw [Moment.after_store, hnext, hm.shows.next]
    push_cast
    rfl
  · rw [hm.shows.next]
    rfl
  · rw [show (step.row ns _ e.began).status = step.status from rfl, hstatus]
    exact nofun
  · rw [Moment.after_trace, executions_cons, if_pos h, hm.shows.count]
  · exact fun _ => ⟨i, (taker_cons _ _ hhanded).trans hm.taker⟩

/-- A failed attempt is an attempt. -/
theorem LatestAfter.fail {a : StepRow} (h : LatestAfter s k (some a)) (error : String) (now : Int) :
    LatestAfter s k (some (a.fail error now)) := by
  cases k with
  | zero => cases h
  | succ k =>
      obtain ⟨a', ha, hnumber, hpolicy, hkind, -⟩ := h
      obtain rfl := Option.some.inj ha
      exact ⟨_, rfl, hnumber, hpolicy, hkind, nofun⟩

/-- The holder marks the latest attempt as failed. -/
theorem At.failed (hm : At s i k .tried R m) (ha : Calm s i e q m) {error : String}
    (hq : q = .failLatestStep s.runId s.name error ∨ q = .failRunningStep s.runId s.name error) :
    At s i k .tried (fun _ => True) (m.after store i e q) := by
  have hhanded := hm.not_handed ha
  have hruns : q.sparesRuns = true := by rcases hq with rfl | rfl <;> rfl
  have hexec : ¬ Executes s ⟨i, e, q, (store.exec e q m.store).1⟩ := by
    rcases hq with rfl | rfl <;> exact nofun
  have hrow : (store.exec e q m.store).2.run s.runId = m.store.run s.runId := by
    rw [store_exec_run]
    rcases q.exec_cases e m.store.db with hx | hx
    · rw [hx]; rfl
    · rw [hx]; exact Db.run_congr (q.sql_sparesRuns hruns e _).runs _
  refine ⟨(taker_cons _ _ hhanded).trans hm.taker, rfl, ?_, trivial⟩
  refine ⟨hm.shows.life, (congrArg _ hrow).trans hm.shows.row, ?_, ?_, ?_, ?_⟩
  · rw [Moment.after_store, store_exec_db]
    cases q.exec_numbered e m.store.db s.runId s.name with
    | kept h => exact h.trans hm.shows.next
    | inserted hins _ _ _ _ => rcases hq with rfl | rfl <;> cases hins
  · have hlatest : LatestAfter s k (m.store.db.latest s.runId s.name) := hm.shows.latest
    have hc := q.exec_step e m.store.db s.runId s.name
    rw [Moment.after_store, store_exec_latest]
    generalize hnew : (q.exec e m.store.db).2.latest s.runId s.name = new at hc ⊢
    generalize m.store.db.latest s.runId s.name = old at hc hlatest
    cases hc with
    | same => exact hlatest
    | failed _ => exact hlatest.fail _ _
    | failedLatest => exact hlatest.fail _ _
    | _ => rcases hq with hq | hq <;> cases hq
  · rw [Moment.after_trace, executions_cons, if_neg hexec, hm.shows.count]
    rfl
  · exact fun _ => ⟨i, (taker_cons _ _ hhanded).trans hm.taker⟩

/-- The holder lets go of the run. -/
theorem At.left (hm : At s i k phase R m) (ha : Calm s i e q m) {phase' : Phase}
    (hlife : Life s.again k phase') (hphase : statusIn phase' ≠ .running)
    (hsteps : q.sparesSteps = true)
    {f : RunRow → RunRow} (hf : ∀ r, columns (f r) = (statusIn phase', (columns r).2))
    (hrow : (store.exec e q m.store).2.run s.runId =
      (m.store.run s.runId).map fun r => if r.status = .running then f r else r) :
    Idle s i (m.after store i e q) := by
  have hhanded := hm.not_handed ha
  have hdb : (q.exec e m.store.db).2.steps = m.store.db.steps := by
    rcases q.exec_cases e m.store.db with hx | hx
    · rw [hx]
    · rw [hx]; exact q.sql_sparesSteps hsteps e _
  have hexec : ¬ Executes s ⟨i, e, q, (store.exec e q m.store).1⟩ := by
    intro h
    obtain ⟨step, _, hins, -⟩ := inserted_of_executes h
    cases q with
    | supersede _ => cases hsteps
    | insertStep _ => cases hsteps
    | _ => cases hins
  obtain ⟨r, hr, hstatus, hcols⟩ := hm.row
  have hrow' : ((store.exec e q m.store).2.run s.runId).map columns =
      some (statusIn phase', s.ns, s.workflowType, s.workflowPolicy) := by
    rw [hrow, show m.store.run s.runId = some r from hr, Option.map_some, if_pos hstatus,
      Option.map_some, hf]
    simp only [columns, hcols]
  have hshows : Shows s k phase' (m.after store i e q) := by
    refine ⟨hlife, hrow', ?_, ?_, ?_, fun hrunning => absurd hrunning hphase⟩
    · rw [← hm.shows.next]
      simp only [Moment.after_store, store_exec_db, Db.nextAttempt, hdb]
    · have hlatest := hm.shows.latest
      rw [Moment.after_store, store_exec_latest, Db.latest_congr hdb]
      exact hlatest
    · rw [Moment.after_trace, executions_cons, if_neg hexec, hm.shows.count]
      rfl
  exact ⟨⟨k, phase', hshows⟩, fun hholds => hphase (columns_of_hasStatus hholds.2 hrow')⟩

end Frame

/-! ## Programs of the holder -/

section Holder
variable {s : Subject} {i k : Nat} {phase : Phase} {R : Option StepRow → Prop}
variable {ε α : Type}

/-- One statement of the holder, which does not fail. -/
theorem sat_own {q : Stmt} {L : q.Ans → Now → Prop}
    (hL : ∀ a, Stable (engine s) (Γ s) i (L a))
    (h : ∀ e m a, At s i k phase R m → Calm s i e q m → (q.exec e m.store.db).1 = .ok a →
      Living s (m.after store i e q) ∧ L a (m.after store i e q)) :
    Sat (engine s) (Γ s) i (At s i k phase R) (sql q) L fun _ _ => False := by
  intro e m hm ha
  obtain ⟨a, hres⟩ := ha.2.2.2 hm.holds
  obtain ⟨hliving, hLm⟩ := h e m a hm ha.2 hres
  refine ⟨fun _ => hliving, L a, hL a, hLm, ?_⟩
  rw [show ((engine s).exec e q m.store).1 = .ok a from hres]
  exact fun _ h => h

/-- A neutral statement of the holder, and what its answer says. -/
theorem sat_neutral {q : Stmt} {F : q.Ans → Prop} (hq : Neutral s q)
    (hF : ∀ e m a, At s i k phase R m → (q.exec e m.store.db).1 = .ok a → F a) :
    Sat (engine s) (Γ s) i (At s i k phase R) (sql q)
      (fun a m => F a ∧ At s i k phase R m) fun _ _ => False := by
  refine sat_own (fun a => stable_const.and stable_at) fun e m a hm ha hres => ?_
  have hm' := hm.neutral hq ha
  exact ⟨living_of_shows hm'.shows, hF e m a hm hres, hm'⟩

/-- A program of the holder that makes only neutral statements. -/
theorem sat_neutral_uses {p : Prog Stmt Stmt.Result ε α} (hp : p.Uses (Neutral s)) :
    Sat (engine s) (Γ s) i (At s i k phase R) p (fun _ => At s i k phase R)
      fun _ => At s i k phase R := by
  refine Sat.of_uses hp stable_at fun e q m hq hm ha => ?_
  have hm' : At s i k phase R (m.after store i e q) := hm.neutral hq ha.2
  exact ⟨fun _ => living_of_shows hm'.shows, hm'⟩

/-- The same in a handler. -/
theorem sat_neutral_stmt {q : Stmt} {F : q.Ans → Prop} (hq : Neutral s q)
    (hF : ∀ e m a, At s i k phase R m → (q.exec e m.store.db).1 = .ok a → F a) :
    Sat (engine s) (Γ s) i (At s i k phase R) (stmt q)
      (fun a m => F a ∧ At s i k phase R m) fun _ _ => False :=
  (sat_neutral hq hF).mapError fun _ _ h => h

theorem sat_validateWorkflowAction (cfg : Config) :
    Sat (engine s) (Γ s) i (At s i k phase R)
      (WorkerService.validateWorkflowAction cfg s.runId) (fun _ => At s i k phase R)
      fun _ _ => False := by
  have hfind : Sat (engine s) (Γ s) i (At s i k phase R) (stmt (.getNamespace s.runId))
      (fun a m => a = some s.ns ∧ At s i k phase R m) fun _ _ => False := by
    refine sat_neutral_stmt ⟨rfl, rfl⟩ fun e m a hm hres => ?_
    obtain ⟨r, hr, -, hns, -⟩ := hm.row
    rw [Stmt.exec_ok hres] at hres
    obtain rfl : (m.store.db.run s.runId).map RunRow.ns = a := Except.ok.inj hres
    rw [hr, Option.map_some, hns]
  refine Sat.bind hfind fun found => Sat.of_fact fun hfound => ?_
  subst hfound
  have hcheck : Sat (engine s) (Γ s) i (At s i k phase R) (stmt (.checkWorkflowState s.runId s.ns))
      (fun a m => (a.exists? = true ∧ a.status = some .running) ∧ At s i k phase R m)
      fun _ _ => False := by
    refine sat_neutral_stmt ⟨rfl, rfl⟩ fun e m a hm hres => ?_
    obtain ⟨r, hr, hstatus, hns, -⟩ := hm.row
    rw [Stmt.exec_ok hres] at hres
    simp only [Stmt.sql, checkWorkflowState, hr, Option.filter_some, hns, decide_true, if_true,
      hstatus, Except.ok.injEq] at hres
    subst hres
    exact ⟨rfl, rfl⟩
  change Sat (engine s) (Γ s) i _ (stmt (.checkWorkflowState s.runId s.ns) >>= _) _ _
  refine Sat.bind hcheck fun check => Sat.of_fact fun hchecked => ?_
  obtain ⟨hexists, hrunning⟩ := hchecked
  simp only [hexists, hrunning, Bool.not_true, Bool.false_eq_true, if_false]
  exact fun _ hm => hm

/-! ### Beginning an execution -/

/-- The insertion of a running attempt. -/
theorem sat_replaceLatest {params : BeginStepParams} (hrun : params.runId = s.runId)
    (hname : params.stepId = s.name) (hkind : params.stepKind = .function)
    (hpolicy : params.retryPolicy.map ProtoPolicy.toValue = s.stored) (attemptId : Uuid) :
    Sat (engine s) (Γ s) i (At s i k .taken R)
      (StepRepository.replaceLatest (StepRepository.beginRow params attemptId))
      (fun _ => At s i (k + 1) .tried Open) fun _ _ => False := by
  have hstep : ∀ step, some (StepRepository.beginRow params attemptId) = some step →
      step.retryPolicy = s.stored ∧ step.stepKind = .function := by
    intro step h
    obtain rfl := Option.some.inj h
    exact ⟨hpolicy, hkind⟩
  have hopens : (if (StepRepository.beginRow params attemptId).status = .running then
      some ((StepRepository.beginRow params attemptId).runId,
        (StepRepository.beginRow params attemptId).stepId) else none) = some (s.runId, s.name) :=
    opens_iff.mpr ⟨hrun, hname, rfl⟩
  refine Sat.bind (P := fun hit m => if hit then At s i (k + 1) .tried Open m
    else At s i k .taken R m) (sat_own (fun hit => ?_) fun e m hit hm ha hres => ?_) fun hit => ?_
  · cases hit with
    | true => exact stable_at
    | false => exact stable_at
  · cases hit with
    | true =>
        have hm' := hm.executed ha (by rw [store_exec_fst, hres]; exact hopens) rfl hstep
        exact ⟨living_of_shows hm'.shows, hm'⟩
    | false =>
        have hmiss : ((Stmt.supersede (StepRepository.beginRow params attemptId)).exec e
            m.store.db).2 = m.store.db := by
          have hsql := Stmt.exec_ok hres
          rw [hsql] at hres
          rw [hsql]
          exact supersede_miss fun hok => by cases hok.symm.trans hres
        have hm' := hm.same ha (same_of_db hmiss)
        exact ⟨living_of_shows hm'.shows, hm'⟩
  · cases hit with
    | true => exact fun _ hm => hm
    | false =>
        refine sat_own (fun _ => stable_at) fun e m u hm ha hres => ?_
        have hm' := hm.executed ha (by rw [store_exec_fst, hres]; exact hopens) rfl hstep
        exact ⟨living_of_shows hm'.shows, hm'⟩

theorem sat_begin (max : Nat) {params : BeginStepParams} (hrun : params.runId = s.runId)
    (hname : params.stepId = s.name) (hkind : params.stepKind = .function)
    (hinput : params.input = none) (hpolicy : params.retryPolicy.map ProtoPolicy.toValue = s.stored) :
    Sat (engine s) (Γ s) i (At s i k .taken R) (StepRepository.begin max params)
      (fun result m => result.shouldExecute = true ∧ At s i (k + 1) .tried Open m)
      fun _ _ => False := by
  have hinsert : Sat (engine s) (Γ s) i (At s i k .taken R)
      (sql .newUuid >>= fun attemptId =>
        StepRepository.replaceLatest (StepRepository.beginRow params attemptId) >>= fun _ =>
          Prog.ret (⟨true, none⟩ : BeginStepResult))
      (fun result m => result.shouldExecute = true ∧ At s i (k + 1) .tried Open m)
      fun _ _ => False := by
    refine Sat.bind (sat_neutral (F := fun _ => True) ⟨rfl, rfl⟩ fun _ _ _ _ _ => trivial)
      fun attemptId => Sat.of_fact fun _ => ?_
    exact Sat.bind (sat_replaceLatest hrun hname hkind hpolicy attemptId) fun _ _ hm => ⟨rfl, hm⟩
  have hlatest : Sat (engine s) (Γ s) i (At s i k .taken R)
      (sql (.latestStep params.runId params.stepId))
      (fun found m => (∀ output, found ≠ some ⟨.completed, output⟩) ∧ At s i k .taken R m)
      fun _ _ => False := by
    refine sat_neutral ⟨rfl, rfl⟩ fun e m found hm hres output hfound => ?_
    rw [Stmt.exec_ok hres, hfound, hrun, hname] at hres
    obtain ⟨a, ha, heq⟩ := Option.map_eq_some_iff.mp (Except.ok.inj hres)
    have hshown : LatestAfter s k (m.store.db.latest s.runId s.name) := hm.shows.latest
    rw [ha] at hshown
    cases k with
    | zero => cases hshown
    | succ k =>
        obtain ⟨a', ha', -, -, -, hstatus⟩ := hshown
        obtain rfl := Option.some.inj ha'
        exact hstatus (ExistingStep.mk.inj heq).1
  unfold StepRepository.begin
  rw [hinput]
  change Sat _ _ _ _ (sql (.latestStep params.runId params.stepId) >>= _) _ _
  refine Sat.bind hlatest fun found => Sat.of_fact fun hfound => ?_
  match found with
  | none => exact hinsert
  | some ⟨.completed, output⟩ => exact absurd rfl (hfound output)
  | some ⟨.pending, _⟩ => exact hinsert
  | some ⟨.running, _⟩ => exact hinsert
  | some ⟨.failed, _⟩ => exact hinsert

/-- The holder begins the step. -/
theorem sat_beginStep {cfg : Config} (hnamed : s.Named cfg) (ns : String) :
    Sat (engine s) (Γ s) i (At s i k .taken R)
      (WorkerService.beginStep cfg
        ⟨ns, cfg.uuidText s.runId, s.name, 1, none, some s.retry.toProto⟩)
      (fun resp m => (∃ output, resp = .beginStep s.name true output) ∧
        At s i (k + 1) .tried Open m) fun _ _ => False := by
  unfold WorkerService.beginStep Config.uuid
  rw [hnamed.1]
  change Sat _ _ _ _ (WorkerService.validateWorkflowAction cfg s.runId >>= _) _ _
  refine Sat.bind (sat_validateWorkflowAction cfg) fun _ => ?_
  have hpolicy : Sat (engine s) (Γ s) i (At s i k .taken R) (stmt (.getRetryPolicy s.runId))
      (fun found m => found = readPolicy s.workflowPolicy ∧ At s i k .taken R m) fun _ _ => False := by
    refine sat_neutral_stmt ⟨rfl, rfl⟩ fun e m found hm hres => ?_
    obtain ⟨r, hr, -, -, -, hretry⟩ := hm.row
    rw [Stmt.exec_ok hres] at hres
    obtain rfl : readPolicy ((m.store.db.run s.runId).bind RunRow.retryPolicy) = found :=
      Except.ok.inj hres
    rw [hr, Option.bind_some, hretry]
  refine Sat.bind hpolicy fun found => Sat.of_fact fun hfound => ?_
  subst hfound
  have hbegin : Sat (engine s) (Γ s) i (At s i k .taken R)
      (call (StepRepository.begin cfg.payloadMaxSizeBytes ⟨s.runId, s.name, .function, none,
        mergeProtoPolicy (some s.retry.toProto) (readPolicy s.workflowPolicy)⟩))
      (fun result m => result.shouldExecute = true ∧ At s i (k + 1) .tried Open m)
      fun _ _ => False :=
    (sat_begin _ rfl rfl rfl rfl rfl).mapError fun _ _ h => h
  change Sat _ _ _ _ (call _ >>= _) _ _
  refine Sat.bind hbegin fun result => Sat.of_fact fun hexec => ?_
  exact fun m hm => ⟨⟨_, by rw [hexec]⟩, hm⟩

/-! ### Failing an execution -/

/-- The parameters of a failure that is to be tried again. -/
structure Retries (s : Subject) (params : FailStepParams) : Prop where
  run : params.runId = s.runId
  name : params.stepId = s.name
  retryable : params.nonRetryable = false
  listed : s.policy.isNonRetryable params.error = false

/-- The end of `fail` when the step is not tried again. -/
theorem sat_failForGood {params : FailStepParams} (hparams : Retries s params) :
    Sat (engine s) (Γ s) i (At s i k .tried Open) (StepRepository.failForGood params)
      (fun result m => result = ⟨false, none⟩ ∧ At s i k .tried (fun _ => True) m)
      fun _ _ => False := by
  have hkind : Sat (engine s) (Γ s) i (At s i k .tried Open)
      (sql (.latestStepKind params.runId params.stepId))
      (fun kind m => kind.isSome = true ∧ At s i k .tried Open m) fun _ _ => False := by
    refine sat_neutral ⟨rfl, rfl⟩ fun e m kind hm hres => ?_
    obtain ⟨a, ha, -⟩ := hm.latest
    rw [Stmt.exec_ok hres, hparams.run, hparams.name] at hres
    obtain rfl : (m.store.db.latest s.runId s.name).map (fun r =>
      if r.stepKind = .sleep then StepKind.sleep else .function) = kind := Except.ok.inj hres
    rw [show m.store.db.latest s.runId s.name = some a from ha]
    rfl
  have hfail : Sat (engine s) (Γ s) i (At s i k .tried Open)
      (sql (.failRunningStep params.runId params.stepId params.error))
      (fun hit m => hit = true ∧ At s i k .tried (fun _ => True) m) fun _ _ => False := by
    refine sat_own (fun _ => stable_const.and stable_at) fun e m hit hm ha hres => ?_
    have hm' := hm.failed ha (.inr (by rw [hparams.run, hparams.name]))
    refine ⟨living_of_shows hm'.shows, ?_, hm'⟩
    obtain ⟨a, ha, hrunning⟩ := hm.latest
    have hlatest : m.store.db.latest s.runId s.name = some a := ha
    rw [Stmt.exec_ok hres, hparams.run, hparams.name] at hres
    have hany : m.store.db.steps.rows.any (StepRow.isRunningOf s.runId s.name) = true :=
      List.any_eq_true.mpr ⟨a, Db.mem_of_latest hlatest,
        isRunningOf_iff.mpr ⟨Db.isLatestOf_of_latest hlatest, hrunning⟩⟩
    simp only [Stmt.sql, failRunningStep, Db.commitSteps, hany] at hres
    split at hres
    next => exact (Except.ok.inj hres).symm
    next => cases hres
  unfold StepRepository.failForGood StepRepository.latestStepKindStrict
  rw [Prog.bind_assoc]
  refine Sat.bind hkind fun kind => Sat.of_fact fun hsome => ?_
  obtain ⟨kind, rfl⟩ := Option.isSome_iff_exists.mp hsome
  change Sat _ _ _ _ (sql _ >>= _) _ _
  refine Sat.bind hfail fun hit => Sat.of_fact fun hhit => ?_
  subst hhit
  exact fun m hm => ⟨rfl, hm⟩

/-- `fail`, for an execution of the step. -/
theorem sat_fail {params : FailStepParams} (hparams : Retries s params) :
    Sat (engine s) (Γ s) i (At s i k .tried Open) (StepRepository.fail params)
      (fun result m => (s.again k = true ∧ (∃ ms, result = ⟨true, some ms⟩) ∨
        s.again k = false ∧ result = ⟨false, none⟩) ∧ At s i k .tried (fun _ => True) m)
      fun _ _ => False := by
  have hinfo : Sat (engine s) (Γ s) i (At s i k .tried Open)
      (sql (.getRetryInfo params.runId params.stepId))
      (fun info m => info = some ⟨k, readPolicy s.stored⟩ ∧ At s i k .tried Open m) fun _ _ => False := by
    refine sat_neutral ⟨rfl, rfl⟩ fun e m info hm hres => ?_
    obtain ⟨r, hr, -⟩ := hm.row
    have hlatest : LatestAfter s k (m.store.db.latest s.runId s.name) := hm.shows.latest
    rw [Stmt.exec_ok hres, hparams.run, hparams.name] at hres
    have hanswer := Except.ok.inj hres
    cases k with
    | zero => exact absurd hm.shows.life.pos_of_tried (Nat.lt_irrefl 0)
    | succ k =>
        obtain ⟨a, ha, hnumber, hpolicy, -⟩ := hlatest
        rw [hr, ha] at hanswer
        rw [← hanswer]
        simp [hnumber, hpolicy]
  have hlisted : ((readPolicy s.stored).getD .default).isNonRetryable params.error = false :=
    hparams.listed
  have hshould : StepRepository.shouldRetry params ((readPolicy s.stored).getD .default) k =
      s.again k := by
    simp [StepRepository.shouldRetry, hparams.retryable, hlisted, Subject.again, Subject.policy]
  unfold StepRepository.fail
  refine Sat.bind hinfo fun info => Sat.of_fact fun heq => ?_
  subst heq
  dsimp only [Option.getD_some]
  cases hagain : s.again k with
  | true =>
      rw [if_pos (hshould.trans hagain)]
      refine Sat.bind (P := fun _ => At s i k .tried Open) ?_ fun delayMs => ?_
      · unfold StepRepository.retryDelayMs
        split
        next => exact fun _ hm => hm
        next =>
          refine Sat.bind (sat_neutral (F := fun _ => True) ⟨rfl, rfl⟩ fun _ _ _ _ _ => trivial)
            fun _ _ hm => hm.2
      · refine Sat.bind (P := fun _ => At s i k .tried fun _ => True)
          (sat_own (fun _ => stable_at) fun e m u hm ha hres => ?_) fun _ m hm =>
            ⟨.inl ⟨rfl, _, rfl⟩, hm⟩
        have hm' := hm.failed ha (.inl (by rw [hparams.run, hparams.name]))
        exact ⟨living_of_shows hm'.shows, hm'⟩
  | false =>
      rw [if_neg (ne_true_of_eq_false (hshould.trans hagain))]
      exact (sat_failForGood hparams).mono (fun _ h => h)
        (fun _ _ h => ⟨.inr ⟨rfl, h.1⟩, h.2⟩) fun _ _ h => h

/-- The holder puts the run back. -/
theorem sat_scheduleRetry (hagain : s.again k = true) (ms : Nat) :
    Sat (engine s) (Γ s) i (At s i k .tried R) (WorkerService.scheduleRetry s.runId (some ms))
      (fun _ => Idle s i) fun _ _ => False := by
  refine Sat.mapError (X := fun _ _ => False) ?_ fun _ _ h => h
  refine Sat.bind (P := fun _ => Idle s i)
    (sat_own (fun _ => stable_idle) fun e m hit hm ha hres => ?_) fun _ _ hm => hm
  have hm' : Idle s i (m.after store i e (.scheduleRetry s.runId ms)) := by
    refine hm.left ha (.retry hm.shows.life hagain) nofun rfl (f := RunRow.retry ms e.began)
      (fun _ => rfl) ?_
    rw [store_exec_run, Stmt.exec_ok hres]
    rw [Stmt.exec_ok hres] at hres
    exact updateAt_ok (fun _ _ => rfl) hres
  exact ⟨hm'.1, hm'⟩

/-- The holder reports the failure of the step. -/
theorem sat_failStep {cfg : Config} (hnamed : s.Named cfg) (hname : s.name ≠ "") (ns : String)
    {e : Failure} (he : s.Retryable e) :
    Sat (engine s) (Γ s) i (At s i k .tried Open)
      (WorkerService.failStep cfg ⟨ns, cfg.uuidText s.runId, s.name, some e.toKagzi.toDetail⟩)
      (fun resp m => resp = .failStep true ∧ Idle s i m ∨
        resp = .failStep false ∧ s.again k = false ∧ At s i k .tried (fun _ => True) m)
      fun _ _ => False := by
  unfold WorkerService.failStep Config.uuid requireNonEmpty
  rw [hnamed.1, if_neg hname]
  have hfail : Sat (engine s) (Γ s) i (At s i k .tried Open)
      (call (StepRepository.fail (WorkerService.failStepParams s.runId
        ⟨ns, cfg.uuidText s.runId, s.name, some e.toKagzi.toDetail⟩)))
      (fun result m => (s.again k = true ∧ (∃ ms, result = ⟨true, some ms⟩) ∨
        s.again k = false ∧ result = ⟨false, none⟩) ∧ At s i k .tried (fun _ => True) m)
      fun _ _ => False :=
    (sat_fail ⟨rfl, rfl, he.1, he.2⟩).mapError fun _ _ h => h
  change Sat _ _ _ _ (call _ >>= _) _ _
  refine Sat.bind hfail fun result => Sat.of_fact fun hresult => ?_
  rcases hresult with ⟨hagain, ms, rfl⟩ | ⟨hagain, rfl⟩
  · exact Sat.bind (sat_scheduleRetry hagain ms) fun _ _ hm => .inl ⟨rfl, hm⟩
  · exact fun m hm => .inr ⟨rfl, hagain, hm⟩

end Holder

end Budget

end Kagzi
