import Mathlib.Data.Int.Interval
import Kagzi.Logic.Possible
import Kagzi.Fairness
import Kagzi.Integrity

/-!
# Every run can be completed

Whatever has happened, and whoever else is at work, a run that is not finished can still be
completed.  A worker that registers now and polls again and again is handed the run, after it
has been handed at most the runs that are ahead of it, and can report its output
(`run_can_be_completed`).

A poll can be refused in spite of a run that is due: the lease it gives is written to
`available_at`, which is unique among the instances of one schedule.  But of the moments to
come there is one at which the lease is free (`exists_free_time`).
-/

namespace Kagzi

open Atomic Relational

namespace Completion

/-! ## Claims that get through -/

/-- There is a moment from `t` on, not later than there are rows, at which no lease ends that a
row of the table has. -/
theorem exists_free_time (rows : List RunRow) (t lease : Int) :
    ∃ t', t ≤ t' ∧ t' ≤ t + rows.length ∧ ∀ x ∈ rows, x.availableAt ≠ some (t' + lease) := by
  let taken : Finset Int := (rows.filterMap fun x => x.availableAt.map (· - lease)).toFinset
  have hcard : taken.card < (Finset.Icc t (t + rows.length)).card := by
    have hle : taken.card ≤ rows.length :=
      Nat.le_trans (List.toFinset_card_le _) (List.length_filterMap_le _ _)
    rw [Int.card_Icc]
    omega
  obtain ⟨t', hmem, hfree⟩ := Finset.exists_mem_notMem_of_card_lt_card hcard
  obtain ⟨hle, hge⟩ := Finset.mem_Icc.mp hmem
  refine ⟨t', hle, hge, fun x hx hav => hfree ?_⟩
  refine List.mem_toFinset.mpr (List.mem_filterMap.mpr ⟨x, hx, ?_⟩)
  rw [hav]
  exact congrArg some (Int.add_sub_cancel _ _)

section Rows
variable {db : Db} {r y : RunRow} {text : String} {secs now a : Int}

/-- The claim of a run fits when its lease ends before the end of time, and when no other does. -/
theorem claim_fits (hroom : now + seconds secs < timestampEnd)
    (hfree : ∀ x ∈ db.runs.rows, x.availableAt ≠ some (now + seconds secs))
    (hy : db.run y.runId = some y) (hs : y.status.isClaimable = true) :
    db.FitsInPlace (y.claim text secs now) := by
  refine ⟨⟨.inr rfl, fun t ht => Option.some.inj ht ▸ hroom⟩, fun x hx hne hclash => ?_⟩
  rcases hclash with hid | ⟨-, -, hav⟩ | ⟨hx', -, hns, hext⟩
  · exact hne hid
  · exact hfree x hx hav
  · have hlive : y.status.isTerminal = false := by
      cases hst : y.status <;> rw [hst] at hs <;> first | rfl | cases hs
    have hsame : x = y := db.runs.eq_of_clash hx (Db.mem_of_run hy)
        (.inr (.inr ⟨hx', hlive, hns, hext⟩))
    exact hne (show x.runId = y.runId from congrArg RunRow.runId hsame)

/-- A run that is finished is in nobody's way. -/
theorem complete_fits : db.FitsInPlace (r.complete now) := by
  refine ⟨⟨.inl rfl, nofun⟩, fun x _ hne hclash => ?_⟩
  rcases hclash with hid | ⟨-, hsome, hav⟩ | ⟨-, hlive, -⟩
  · exact hne hid
  · rw [hav] at hsome
    cases hsome
  · cases hlive

end Rows

/-! ## Statements that get through -/

/-- The supply at the time `t`: nothing is locked and nothing faults. -/
def calm (t : Int) (fresh : Uuid) : Env := ⟨t, t, fresh, [], 0, false⟩

theorem exec_calm {t : Int} {fresh : Uuid} {q : Stmt} {db : Db} :
    q.exec (calm t fresh) db = q.sql (calm t fresh) db :=
  Stmt.exec_of_safe rfl

section Statements
variable {i : Nat} {m : Now} {t : Int} {fresh : Uuid} {q : Stmt}
variable {β : Type} {f : q.Ans → Rpc β} {P : β → Now → Prop} {X : Status → Now → Prop}

theorem answer_calm :
    (store.exec (calm t fresh) q m.store).1 = (q.sql (calm t fresh) m.store.db).1 := by
  rw [store_exec_fst, exec_calm]

theorem after_calm :
    (m.after store i (calm t fresh) q).store.db = (q.sql (calm t fresh) m.store.db).2 := by
  rw [Moment.after_store, store_exec_db, exec_calm]

/-- A calm statement that makes no run can be executed once its time has come. -/
theorem admits_calm (hle : m.store.now ≤ t) (hnew : q.newRun (calm t fresh) = none) :
    store.admits i (calm t fresh) q m :=
  ⟨hle, by rw [hnew]; nofun, Int.le_refl _⟩

/-- A statement that succeeds, and what the program does with its answer. -/
theorem can_stmt_bind (fresh : Uuid) (hle : m.store.now ≤ t) (hnew : q.newRun (calm t fresh) = none)
    {a : q.Ans} (hres : (q.sql (calm t fresh) m.store.db).1 = .ok a)
    (h : (f a).Can store i P X (m.after store i (calm t fresh) q)) :
    (stmt q >>= f).Can store i P X m := by
  refine ⟨calm t fresh, admits_calm hle hnew, ?_⟩
  rw [answer_calm, hres]
  exact h

theorem can_uuid_bind {cfg : Config} {text message : String} {id : Uuid} {g : Uuid → Rpc β}
    (hid : cfg.parseUuid text = some id) (h : (g id).Can store i P X m) :
    (cfg.uuid text message >>= g).Can store i P X m := by
  rw [Config.uuid, hid]
  exact h

theorem can_requireNonEmpty_bind {value field : String} {g : Unit → Rpc β} (hne : value ≠ "")
    (h : (g ()).Can store i P X m) : (requireNonEmpty value field >>= g).Can store i P X m := by
  rw [requireNonEmpty, if_neg hne]
  exact h

/-- A statement that fails ends the program. -/
theorem can_stmt_fail (fresh : Uuid) (hle : m.store.now ≤ t) (hnew : q.newRun (calm t fresh) = none)
    {x : StoreError} (hres : (q.sql (calm t fresh) m.store.db).1 = .error x)
    (h : X (mapStoreError x) (m.after store i (calm t fresh) q)) :
    (stmt q >>= f).Can store i P X m := by
  refine ⟨calm t fresh, admits_calm hle hnew, ?_⟩
  rw [answer_calm, hres]
  exact h

end Statements

/-! ## The scene -/

/-- What matters of the moment: the runs, their payloads, a worker and the time. -/
structure Scene (runs : Table RunRow) (payloads : Table PayloadRow) (x : WorkerRow) (t : Int)
    (m : Now) : Prop where
  runs : m.store.db.runs = runs
  payloads : m.store.db.payloads = payloads
  worker : m.store.db.worker x.workerId = some x
  now : m.store.now = t

/-- The statement writes no run, no payload and no worker. -/
def Aside (q : Stmt) : Prop :=
  q.sparesRuns = true ∧ q.sparesWorkers = true ∧ ∀ e, q.newRun e = none

section Scenes
variable {runs : Table RunRow} {payloads : Table PayloadRow} {x : WorkerRow} {t t' : Int} {m : Now}
variable {i : Nat} {fresh : Uuid} {q : Stmt}

/-- A statement on something else leaves the scene as it is, but for the time. -/
theorem Scene.aside (h : Scene runs payloads x t m) (hq : Aside q) :
    Scene runs payloads x t' (m.after store i (calm t' fresh) q) := by
  obtain ⟨hruns, hworkers, -⟩ := hq
  have hsame := q.sql_sparesRuns hruns (calm t' fresh) m.store.db
  refine ⟨?_, ?_, ?_, rfl⟩
  · rw [after_calm, hsame.runs, h.runs]
  · rw [after_calm, hsame.payloads, h.payloads]
  · rw [after_calm, Db.worker_congr (q.sql_sparesWorkers hworkers _ _), h.worker]

/-- A program that writes something else can be brought to an end. -/
theorem Scene.can {ε α : Type} {p : Prog Stmt Stmt.Result ε α} (h : Scene runs payloads x t m)
    (hp : p.Uses Aside) :
    p.Can store i (fun _ => Scene runs payloads x t) (fun _ => Scene runs payloads x t) m := by
  exact Prog.Can.keeps hp (fun q m hq hm =>
    ⟨calm t 0, admits_calm (Int.le_of_eq hm.now) (hq.2.2 _), hm.aside hq⟩) h

theorem Scene.can_attempt {ε ε' α : Type} {p : Prog Stmt Stmt.Result ε α} {X : ε' → Now → Prop}
    (h : Scene runs payloads x t m) (hp : p.Uses Aside) :
    p.attempt.Can store i (fun _ => Scene runs payloads x t) X m :=
  Prog.Can.attempt (h.can hp) (fun _ _ h => h) fun _ _ h => h

end Scenes

/-! ## The handlers -/

theorem aside_readsSteps {q : Stmt} (h : q.readsSteps = true) : Aside q := by
  cases q with
  | latestStep _ _ => exact ⟨rfl, rfl, fun _ => rfl⟩
  | latestStepKind _ _ => exact ⟨rfl, rfl, fun _ => rfl⟩
  | getRetryInfo _ _ => exact ⟨rfl, rfl, fun _ => rfl⟩
  | listSteps _ _ _ _ => exact ⟨rfl, rfl, fun _ => rfl⟩
  | newUuid => exact ⟨rfl, rfl, fun _ => rfl⟩
  | random => exact ⟨rfl, rfl, fun _ => rfl⟩
  | _ => cases h

theorem recordEvent_aside (cfg : Config) (runId : Uuid) (stepKind : StepKind)
    (output : Option Bytes) :
    (StepRepository.recordLifecycleEvent cfg.payloadMaxSizeBytes cfg.utf8 runId stepKind
      output).Uses Aside :=
  recordLifecycleEvent_uses aside_readsSteps _ _ _ (fun _ _ _ _ => ⟨rfl, rfl, fun _ => rfl⟩)
    fun _ _ _ _ => ⟨⟨rfl, rfl, fun _ => rfl⟩, rfl, rfl, fun _ => rfl⟩

section Handlers
variable {cfg : Config} {runs runs' : Table RunRow} {payloads : Table PayloadRow} {x : WorkerRow}
    {t t' : Int}
variable {m : Now} {i : Nat} {y : RunRow}

theorem can_dispatch {item : ClaimedWorkflow} (h : Scene runs payloads x t m) :
    (WorkerService.dispatch cfg item).Can store i
      (fun resp m' => resp =
          .pollTask (cfg.uuidText item.runId) item.workflowType (bytesToPayload (some item.input)) ∧
        Scene runs payloads x t m')
      (fun _ _ => False) m := by
  have hsleeps : (sql (.completePendingSleeps item.runId)).Uses Aside :=
    uses_sql ⟨rfl, rfl, fun _ => rfl⟩
  refine Prog.Can.bind (h.can_attempt hsleeps) fun _ m₁ h₁ => ?_
  refine Prog.Can.bind (h₁.can_attempt (recordEvent_aside cfg _ _ _)) fun _ m₂ h₂ => ?_
  exact ⟨rfl, h₂⟩

/-- The run that a poll of the worker takes at `t'`, and the table after it. -/
structure Taken (cfg : Config) (runs : Table RunRow) (x : WorkerRow) (types : List String)
    (text : String) (t' : Int) (y : RunRow) (runs' : Table RunRow) : Prop where
  picked :
    earliest (runs.rows.filter (RunRow.available x.ns x.taskQueue types (calm t' 0))) = some y
  claimed : runs.update? (fun z => z.runId = y.runId)
    (RunRow.claim text cfg.worker.visibilityTimeoutSecs t') = some runs'

/-- The poll claims the run, and errs when the run has no payload. -/
theorem Taken.sql {types : List String} {text : String} {db : Db}
    (h : Taken cfg db.runs x types text t' y runs') :
    (Stmt.pollWorkflow x.ns x.taskQueue text types cfg.worker.visibilityTimeoutSecs).sql
        (calm t' 0) db =
      (match db.payloads.get? y.runId with
        | none => .error .database
        | some p => .ok (some ⟨y.runId, y.workflowType, p.input, some text⟩),
            { db with runs := runs' }) := by
  have hupdate : db.updateRuns (fun z => z.runId = y.runId)
      (RunRow.claim text cfg.worker.visibilityTimeoutSecs (calm t' 0).now) =
        .ok { db with runs := runs' } := by
    have hclaimed := h.claimed
    rw [show t' = (calm t' 0).now from rfl] at hclaimed
    rw [Db.updateRuns, hclaimed]
  simp only [Stmt.sql, pollWorkflow, h.picked, hupdate]
  cases db.payloads.get? y.runId <;> rfl

/-- What a poll comes to: the run is handed out when it has its payload. -/
theorem can_poll {types : List String} {text : String} (h : Scene runs payloads x t m)
    (hle : t ≤ t') (htext : cfg.parseUuid text = some x.workerId) (hns : x.ns ≠ "")
    (hstatus : x.status = .online) (htypes : x.workflowTypes = types) (hne : types ≠ [])
    (htaken : Taken cfg runs x types text t' y runs') :
    (handle cfg (.pollTask ⟨x.taskQueue, text, x.ns, types⟩ 0)).Can store i
      (fun resp m' => ∃ p, payloads.get? y.runId = some p ∧
        resp = .pollTask (cfg.uuidText y.runId) y.workflowType (bytesToPayload (some p.input)) ∧
        Scene runs' payloads x t' m')
      (fun _ m' => payloads.get? y.runId = none ∧ Scene runs' payloads x t' m') m := by
  refine can_uuid_bind htext ?_
  rw [if_neg (by simpa using hne)]
  refine can_requireNonEmpty_bind hns ?_
  refine can_stmt_bind 0 (Int.le_of_eq h.now) rfl (congrArg Except.ok h.worker) ?_
  have h₁ : Scene runs payloads x t (m.after store i (calm t 0) (.findWorker x.workerId)) :=
    h.aside ⟨rfl, rfl, fun _ => rfl⟩
  generalize m.after store i (calm t 0) (.findWorker x.workerId) = m₁ at h₁
  have hserved : x.workflowTypes.filter (fun t => types.contains t) = types := by
    rw [htypes]
    exact List.filter_eq_self.mpr fun t ht => List.contains_iff_mem.mpr ht
  show (if x.ns ≠ x.ns ∨ x.taskQueue ≠ x.taskQueue then _ else _ : Rpc Response).Can _ _ _ _ _
  rw [if_neg (by simp), if_neg (by simp [hstatus]), if_neg (by simp [hstatus])]
  dsimp only
  rw [hserved, if_neg (by simpa using hne)]
  -- the poll itself, which claims the run whether or not it can hand it out
  obtain rfl := h₁.runs
  obtain rfl := h₁.payloads
  have hsql := htaken.sql
  have hafter : Scene runs' m₁.store.db.payloads x t'
      (m₁.after store i (calm t' 0)
        (.pollWorkflow x.ns x.taskQueue text types cfg.worker.visibilityTimeoutSecs)) := by
    have hdb : (m₁.after store i (calm t' 0) (.pollWorkflow x.ns x.taskQueue text types
        cfg.worker.visibilityTimeoutSecs)).store.db = { m₁.store.db with runs := runs' } := by
      rw [after_calm, hsql]
    exact ⟨by rw [hdb], by rw [hdb], by rw [hdb]; exact h₁.worker, rfl⟩
  cases hp : m₁.store.db.payloads.get? y.runId with
  | none =>
      rw [hp] at hsql
      exact can_stmt_fail 0 (h₁.now ▸ hle) rfl (congrArg Prod.fst hsql) ⟨rfl, hafter⟩
  | some p =>
      rw [hp] at hsql
      refine can_stmt_bind 0 (h₁.now ▸ hle) rfl (congrArg Prod.fst hsql) ?_
      exact (can_dispatch hafter).mono (fun _ _ h => ⟨p, rfl, h⟩) fun _ _ h => h.elim

theorem not_sameKey_none {α : Type} {a : Option α} : ¬ SameKey a none := by
  rintro ⟨hsome, rfl⟩
  cases hsome

/-- The worker registers. -/
theorem can_register {ns taskQueue : String} {types : List String} {id : Uuid}
    (hle : m.store.now ≤ t) (hnew : m.store.db.worker id = none)
    (hhoused : (m.store.db.namespaceRow ns).isSome = true) (hns : ns ≠ "") (hne : types ≠ []) :
    (handle cfg (.register ⟨ns, taskQueue, types, "", 0, ""⟩)).Can store i
      (fun resp m' => resp = .register (cfg.uuidText id) cfg.worker.heartbeatIntervalSecs ∧
        Scene m.store.db.runs m.store.db.payloads
            (.registered ⟨ns, taskQueue, types, none, none, none⟩ id t) t m')
      (fun _ _ => False) m := by
  have hfind : m.store.db.workers.rows.find?
      (WorkerRow.sameProcess ⟨ns, taskQueue, types, none, none, none⟩) = none := by
    refine List.find?_eq_none.mpr fun x _ hx => ?_
    simp only [WorkerRow.sameProcess, Bool.and_eq_true, decide_eq_true_eq] at hx
    exact not_sameKey_none hx.2
  obtain ⟨workers, hinsert⟩ : ∃ workers, m.store.db.workers.insert?
      (.registered ⟨ns, taskQueue, types, none, none, none⟩ (calm t id).fresh (calm t id).now) =
        some workers := by
    refine Table.insert?_isSome_iff.mpr ⟨trivial, fun x hx hclash => ?_⟩
    rcases hclash with hid | ⟨-, -, -, -, -, hpid⟩
    · rw [← show x.workerId = id from hid, show m.store.db.worker x.workerId =
        some x from Table.get?_of_mem hx] at hnew
      cases hnew
    · exact not_sameKey_none hpid
  have hsql : (Stmt.registerWorker ⟨ns, taskQueue, types, none, none, none⟩).sql
      (calm t id) m.store.db =
      (.ok id, { m.store.db with workers := workers }) := by
    simp only [Stmt.sql, registerWorker, hfind]
    rw [if_pos (show (m.store.db.namespaces.get? ns).isSome = true from hhoused), hinsert]
    rfl
  have hempty : types.isEmpty = false := by simpa using hne
  show (WorkerService.register cfg _).Can _ _ _ _ _
  unfold WorkerService.register
  rw [if_neg (by simp [hempty])]
  refine can_requireNonEmpty_bind hns ?_
  dsimp only
  rw [if_pos rfl, if_pos rfl]
  refine can_stmt_bind id hle rfl (congrArg Prod.fst hsql) ⟨rfl, ?_⟩
  have hdb : (m.after store i (calm t id)
      (.registerWorker ⟨ns, taskQueue, types, none, none, none⟩)).store.db =
      { m.store.db with workers := workers } := by
    rw [after_calm, hsql]
  refine ⟨by rw [hdb], by rw [hdb], ?_, rfl⟩
  refine (congrArg (Db.worker · id) hdb).trans ?_
  exact (Table.get?_insert? hinsert id).trans (if_pos rfl)

/-- A run that is not finished may be worked on. -/
theorem can_validate {r : RunRow} (h : Scene runs payloads x t m) (hr : runs.get? r.runId = some r)
    (hlive : r.status.isTerminal = false) :
    (WorkerService.validateWorkflowAction cfg r.runId).Can store i
      (fun _ => Scene runs payloads x t) (fun _ _ => False) m := by
  have hrun : ∀ {m : Now}, Scene runs payloads x t m → m.store.db.run r.runId = some r := by
    intro m h
    rw [Db.run, h.runs, hr]
  refine can_stmt_bind 0 (Int.le_of_eq h.now) rfl
    (congrArg (fun o => Except.ok (Option.map RunRow.ns o)) (hrun h)) ?_
  have h₁ : Scene runs payloads x t (m.after store i (calm t 0) (.getNamespace r.runId)) :=
    h.aside ⟨rfl, rfl, fun _ => rfl⟩
  generalize m.after store i (calm t 0) (.getNamespace r.runId) = m₁ at h₁
  have hcheck : (checkWorkflowState r.runId r.ns (calm t 0) m₁.store.db).1 =
      .ok ⟨true, some r.status, r.lockedBy⟩ := by
    rw [checkWorkflowState, hrun h₁, Option.filter_some, if_pos (decide_eq_true rfl)]
  refine can_stmt_bind 0 (Int.le_of_eq h₁.now) rfl hcheck ?_
  have h₂ : Scene runs payloads x t (m₁.after store i (calm t 0)
      (.checkWorkflowState r.runId r.ns)) :=
    h₁.aside ⟨rfl, rfl, fun _ => rfl⟩
  dsimp only
  rw [if_neg (by simp), hlive]
  exact h₂

theorem payload_withOutput {db : Db} {runId : Uuid} {pay : PayloadRow} (output : Bytes)
    (hpay : db.payload runId = some pay) :
    (db.withOutput runId output).payload runId = some { pay with output := some output } := by
  obtain ⟨payloads, hu⟩ := Table.update?_of_mild (t := db.payloads)
    (p := fun p => decide (p.runId = runId)) (f := fun p => { p with output := some output })
    fun _ _ _ => ⟨trivial, fun _ h => h⟩
  have hget := Table.get?_update? (f := fun p : PayloadRow => { p with output := some output })
      (fun _ => rfl) hu runId
  rw [show db.payloads.get? runId = some pay from hpay] at hget
  rw [Db.withOutput, hu]
  exact hget.trans (congrArg some (amend_of_true (decide_eq_true (Db.runId_of_payload hpay))))

/-- The run is completed, and its output is written. -/
theorem sql_completeRun {db : Db} {r : RunRow} {pay : PayloadRow} (output : Bytes)
    (hr : db.run r.runId = some r) (hrunning : r.status = .running)
    (hpay : db.payload r.runId = some pay) :
    ∃ db', (Stmt.completeRun r.runId output).sql (calm t 0) db = (.ok true, db') ∧
      db'.run r.runId = some (r.complete t) ∧
      db'.payload r.runId = some { pay with output := some output } := by
  have hat : RunRow.isAt r.runId .running r = true := (isAt_iff r.runId).mpr ⟨rfl, hrunning⟩
  obtain ⟨db', hu⟩ := (Db.updateRuns_ok_iff (f := RunRow.complete t) hr hat
    (fun x hx => ((isAt_iff r.runId).mp hx).1) rfl).mpr complete_fits
  have hrun := Db.updateRuns_run (f := RunRow.complete t) (fun _ => rfl) hu r.runId
  rw [hr, Option.map_some, amend_of_true hat] at hrun
  have hpayload : db'.payload r.runId = some pay := by
    rw [← hpay]
    exact Db.payload_congr (Db.updateRuns_payloads hu)
  refine ⟨db'.withOutput r.runId output, ?_, ?_, payload_withOutput output hpayload⟩
  · simp only [Stmt.sql, completeRun]
    rw [if_pos (List.any_eq_true.mpr ⟨r, Db.mem_of_run hr, hat⟩),
      show db.updateRuns _ (RunRow.complete (calm t 0).began) = _ from hu]
  · rw [Db.run_congr (db'.withOutput_runs r.runId output), hrun]

/-- An output that is not too large is handed to the statement. -/
theorem can_commit {runId : Uuid} {output : Bytes} {db' : Db} (h : Scene runs payloads x t m)
    (hsize : output.length ≤ cfg.payloadMaxSizeBytes)
    (hsql : (Stmt.completeRun runId output).sql (calm t 0) m.store.db = (.ok true, db')) :
    (WorkflowRepository.complete cfg.payloadMaxSizeBytes runId output).Can store i
      (fun _ => Scene db'.runs db'.payloads x t) (fun _ _ => False) m := by
  rw [WorkflowRepository.complete, validatePayloadSize, if_neg (Nat.not_lt.mpr hsize)]
  refine ⟨calm t 0, admits_calm (Int.le_of_eq h.now) rfl, ?_⟩
  rw [answer_calm, hsql]
  have hdb : (m.after store i (calm t 0) (.completeRun runId output)).store.db = db' := by
    rw [after_calm, hsql]
  have hworkers : db'.workers = m.store.db.workers := by
    rw [← Stmt.sql_sparesWorkers (q := .completeRun runId output) rfl (calm t 0) m.store.db, hsql]
  exact ⟨by rw [hdb], by rw [hdb], by rw [hdb, Db.worker_congr hworkers, h.worker], rfl⟩

/-- What the report of a run that is held comes to. -/
theorem can_complete (r : RunRow) {pay : PayloadRow} {ns : String} {output : Bytes}
    (h : Scene runs payloads x t m) (hid : cfg.parseUuid (cfg.uuidText r.runId) = some r.runId)
    (hr : runs.get? r.runId = some r) (hrunning : r.status = .running)
    (hpay : payloads.get? r.runId = some pay) (hsize : output.length ≤ cfg.payloadMaxSizeBytes) :
    (handle cfg (.completeWorkflow ⟨ns, cfg.uuidText r.runId, some output⟩)).Can store i
      (fun resp m' => resp = .completeWorkflow .completed ∧
        m'.store.run r.runId = some (r.complete t) ∧
        m'.store.db.payload r.runId = some { pay with output := some output })
      (fun _ _ => False) m := by
  have houtput : (payloadToOptionalBytes (some output)).getD [] = output := by
    cases output <;> rfl
  refine can_uuid_bind hid ?_
  refine Prog.Can.bind (can_validate h hr (by rw [hrunning]; rfl)) fun _ m₁ h₁ => ?_
  dsimp only
  rw [houtput]
  obtain ⟨db', hsql, hrun, hpay'⟩ := sql_completeRun (t := t) output
    (show m₁.store.db.run r.runId = some r by rw [Db.run, h₁.runs, hr]) hrunning
    (show m₁.store.db.payload r.runId = some pay by rw [Db.payload, h₁.payloads, hpay])
  refine Prog.Can.bind ((can_commit h₁ hsize hsql).mapError fun _ _ h => h) fun _ m₂ h₂ => ?_
  refine Prog.Can.bind (h₂.can_attempt (recordEvent_aside cfg _ _ _)) fun _ m₃ h₃ => ⟨rfl, ?_, ?_⟩
  · rw [World.run, Db.run, h₃.runs]
    exact hrun
  · rw [Db.payload, h₃.payloads]
    exact hpay'

end Handlers

/-! ## The runs ahead are used up -/

section Queue
variable {cfg : Config} {db : Db} {x : WorkerRow} {r : RunRow} {types : List String} {text : String}
    {a t : Int}

/-- Soon there is a moment at which a poll gets through: it takes the run, or one that is ahead
of it. -/
theorem exists_taken (x : WorkerRow) (text : String) (hr : db.run r.runId = some r)
    (hw : Fairness.waits a r = true) (ha : a < t) (hns : x.ns = r.ns)
    (hqueue : x.taskQueue = r.taskQueue) (htype : r.workflowType ∈ types)
    (hroom : t + db.runs.rows.length + seconds cfg.worker.visibilityTimeoutSecs < timestampEnd) :
    ∃ t' y runs', t ≤ t' ∧ t' ≤ t + db.runs.rows.length ∧
      Taken cfg db.runs x types text t' y runs' ∧
      db.run y.runId = some y ∧ (y = r ∨ y.runId ∈ Fairness.ahead r a db) := by
  obtain ⟨t', hle, hge, hfree⟩ := exists_free_time db.runs.rows t
      (seconds cfg.worker.visibilityTimeoutSecs)
  obtain ⟨hs, a', hav, haa⟩ := Fairness.waits_iff.mp hw
  have hdue : r.due t' = true := by
    rw [RunRow.due, hav]
    exact decide_eq_true (by omega)
  have hmem : r ∈ db.runs.rows.filter (RunRow.available x.ns x.taskQueue types (calm t' 0)) := by
    refine List.mem_filter.mpr ⟨Db.mem_of_run hr, ?_⟩
    simp [RunRow.available, hns, hqueue, hs, htype, calm, hdue]
  obtain ⟨y, hy⟩ := Fairness.earliest_isSome hmem
  obtain ⟨hrun, hyav⟩ := Db.run_of_picked (e := calm t' 0) hy
  simp only [RunRow.available, Bool.and_eq_true, decide_eq_true_eq] at hyav
  obtain ⟨⟨⟨⟨⟨hyns, hyqueue⟩, hys⟩, hydue⟩, -⟩, -⟩ := hyav
  obtain ⟨runs', hclaimed⟩ := (Table.update?_key_isSome_iff (k := y.runId)
    (p := fun z => decide (z.runId = y.runId))
    (f := RunRow.claim text cfg.worker.visibilityTimeoutSecs t') hrun (decide_eq_true rfl)
    fun z hz => of_decide_eq_true hz).mpr (claim_fits (by omega) hfree hrun hys)
  refine ⟨t', y, runs', hle, hge, ⟨hy, hclaimed⟩, hrun, ?_⟩
  by_cases hne : y.runId = r.runId
  · rw [hne, hr] at hrun
    exact .inl (Option.some.inj hrun).symm
  · refine .inr (Fairness.mem_ahead.mpr ⟨hne, y, hrun, hyns.trans hns, hyqueue.trans hqueue, ?_⟩)
    have hearlier := Fairness.earliest_le hy hmem
    refine Fairness.waits_iff.mpr ⟨hys, ?_⟩
    cases hyt : y.availableAt with
    | none => simp [RunRow.due, hyt] at hydue
    | some u =>
        rw [hyt, hav] at hearlier
        exact ⟨u, rfl, Int.le_trans hearlier haa⟩

/-- A claim writes one row. -/
theorem Taken.run {db' : Db} {y : RunRow} (h : Taken cfg db.runs x types text t y db'.runs)
    (id : Uuid) :
    db'.run id = (db.run id).map fun z =>
      if id = y.runId then z.claim text cfg.worker.visibilityTimeoutSecs t else z := by
  have hget := Table.get?_update? (f := RunRow.claim text cfg.worker.visibilityTimeoutSecs t)
      (fun _ => rfl) h.claimed id
  refine hget.trans (Option.map_congr fun z hz => ?_)
  obtain rfl := Db.runId_of_run (show db.run id = some z from hz)
  exact ite_congr (decide_eq_true_eq) (fun _ => rfl) fun _ => rfl

/-- A run that was ahead and has been claimed is ahead no more. -/
theorem ahead_of_taken {db' : Db} {y : RunRow} (hV : 0 ≤ cfg.worker.visibilityTimeoutSecs)
    (ha : a < t) (h : Taken cfg db.runs x types text t y db'.runs)
    (hy : y.runId ∈ Fairness.ahead r a db) :
    (Fairness.ahead r a db').card + 1 ≤ (Fairness.ahead r a db).card := by
  have hsub : Fairness.ahead r a db' ⊆ (Fairness.ahead r a db).erase y.runId := by
    intro id hid
    obtain ⟨hne, z', hz', hns, hqueue, hw⟩ := Fairness.mem_ahead.mp hid
    rw [h.run id] at hz'
    obtain ⟨z, hz, rfl⟩ := Option.map_eq_some_iff.mp hz'
    by_cases hyz : id = y.runId
    · rw [if_pos hyz] at hw
      obtain ⟨-, u, hu, hua⟩ := Fairness.waits_iff.mp hw
      obtain rfl := Option.some.inj hu
      have := seconds_nonneg hV
      omega
    · rw [if_neg hyz] at hns hqueue hw
      exact Finset.mem_erase.mpr ⟨hyz, Fairness.mem_ahead.mpr ⟨hne, z, hz, hns, hqueue, hw⟩⟩
  calc _ ≤ ((Fairness.ahead r a db).erase y.runId).card + 1 :=
        Nat.add_le_add_right (Finset.card_le_card hsub) 1
    _ = _ := Finset.card_erase_add_one hy

end Queue

/-! ## A worker for the run -/

/-- The requests of a worker that takes one run and completes it. -/
def Errand : Request → Prop
  | .register _ => True
  | .pollTask _ _ => True
  | .completeWorkflow _ => True
  | _ => False

/-- The worker that registers at `t` to take the run. -/
def newcomer (r : RunRow) (id : Uuid) (t : Int) : WorkerRow :=
  .registered ⟨r.ns, r.taskQueue, [r.workflowType], none, none, none⟩ id t

/-- Its registration. -/
def registerFor (r : RunRow) : Request := .register ⟨r.ns, r.taskQueue, [r.workflowType], "", 0, ""⟩

/-- Its poll. -/
def pollFor (cfg : Config) (r : RunRow) (id : Uuid) : Request :=
  .pollTask ⟨r.taskQueue, cfg.uuidText id, r.ns, [r.workflowType]⟩ 0

/-- Its report. -/
def reportFor (cfg : Config) (r : RunRow) (output : Bytes) : Request :=
  .completeWorkflow ⟨r.ns, cfg.uuidText r.runId, some output⟩

/-- The answer to its poll, when it is handed the run. -/
def taskOf (cfg : Config) (r : RunRow) (pay : PayloadRow) : Response :=
  .pollTask (cfg.uuidText r.runId) r.workflowType (bytesToPayload (some pay.input))

section Worker
variable {cfg : Config} {r : RunRow} {pay : PayloadRow} {id : Uuid} {t₀ a : Int}
    {payloads : Table PayloadRow}

/-- The worker polls, and takes the run or one that is ahead of it. -/
theorem can_poll_once (hids : ∀ id, cfg.parseUuid (cfg.uuidText id) = some id) (hns : r.ns ≠ "")
    (hw : Fairness.waits a r = true) {p : ServerState} {runs : Table RunRow} {t : Int}
    (hscene : Scene runs payloads (newcomer r id t₀) t p.toMoment) (hr : runs.get? r.runId = some r)
    (ha : a < t)
    (hroom : t + runs.rows.length + seconds cfg.worker.visibilityTimeoutSecs < timestampEnd) :
    ∃ m' c t' y runs', Steps (server cfg Errand) p ⟨m', p.calls ++ [(pollFor cfg r id, c)]⟩ ∧
      Ended (fun resp => ∃ q, payloads.get? y.runId = some q ∧ resp = taskOf cfg y q)
        (fun _ => payloads.get? y.runId = none) c ∧
      t ≤ t' ∧ t' ≤ t + runs.rows.length ∧ Scene runs' payloads (newcomer r id t₀) t' m' ∧
      Taken cfg runs (newcomer r id t₀) [r.workflowType] (cfg.uuidText id) t' y runs' ∧
      (y = r ∨ y.runId ∈ Fairness.ahead r a p.store.db) := by
  obtain rfl := hscene.runs
  obtain ⟨t', y, runs', hle, hge, htaken, hy, hor⟩ :=
    exists_taken (newcomer r id t₀) (cfg.uuidText id) hr hw ha rfl rfl (List.mem_singleton.mpr rfl)
      hroom
  have hcan := can_poll (i := p.calls.length) hscene hle (hids id) hns rfl rfl
      (List.cons_ne_nil _ _) htaken
  obtain ⟨m', c, hsteps, hended⟩ := Prog.Can.steps (S := server cfg Errand)
      (r := pollFor cfg r id) trivial hcan
  refine ⟨m', c, t', y, runs', hsteps, ?_, hle, hge, ?_, htaken, hor⟩
  · exact hended.mono (fun _ ⟨q, hq, hresp, _⟩ => ⟨q, hq, hresp⟩) fun _ h => h.1
  cases hended with
  | returned h =>
      obtain ⟨-, -, -, hscene'⟩ := h
      exact hscene'
  | failed h => exact h.2

/-- The worker polls until it is handed the run: once for each run ahead, at most, and once
more. -/
theorem can_be_handed_out (hids : ∀ id, cfg.parseUuid (cfg.uuidText id) = some id)
    (hV : 0 ≤ cfg.worker.visibilityTimeoutSecs) (hns : r.ns ≠ "") (hw : Fairness.waits a r = true)
    (hpay : payloads.get? r.runId = some pay) (k : Nat) :
    ∀ {p : ServerState} {runs : Table RunRow} {t : Int},
    Scene runs payloads (newcomer r id t₀) t p.toMoment → runs.get? r.runId = some r → a < t →
    (Fairness.ahead r a p.store.db).card ≤ k →
    t + (k + 1) * runs.rows.length + seconds cfg.worker.visibilityTimeoutSecs < timestampEnd →
    ∃ p' polls runs' t', Steps (server cfg Errand) p p' ∧
      p'.calls = p.calls ++ polls ++ [(pollFor cfg r id, .ret (taskOf cfg r pay))] ∧
      polls.length ≤ k ∧
      (∀ c ∈ polls, c.1 = pollFor cfg r id ∧ Ended (fun _ => True) (fun _ => True) c.2) ∧
      Scene runs' payloads (newcomer r id t₀) t' p'.toMoment ∧
      runs'.get? r.runId =
        some (r.claim (cfg.uuidText id) cfg.worker.visibilityTimeoutSecs t') := by
  induction k using Nat.strong_induction_on with
  | _ k ih =>
  intro p runs t hscene hr ha hcard hroom
  have hN : (0 : Int) ≤ k * runs.rows.length :=
    Int.mul_nonneg (Int.natCast_nonneg _) (Int.natCast_nonneg _)
  have hsplit : ((k : Int) + 1) * runs.rows.length = k * runs.rows.length + runs.rows.length := by
    rw [Int.add_mul, Int.one_mul]
  obtain ⟨m', c, t', y, runs', hsteps, hended, hle, hge, hscene', htaken, hor⟩ :=
    can_poll_once hids hns hw hscene hr ha (by omega)
  have htaken' := htaken
  rw [← hscene.runs, ← hscene'.runs] at htaken'
  have hrun : m'.store.db.run r.runId = _ := htaken'.run r.runId
  rw [show p.store.db.run r.runId = some r by rw [Db.run, hscene.runs, hr], Option.map_some] at hrun
  rcases hor with rfl | hahead
  · refine ⟨_, [], runs', t', hsteps, ?_, Nat.zero_le _, List.forall_mem_nil _, hscene', ?_⟩
    · cases hended with
      | returned h =>
          obtain ⟨q, hq, rfl⟩ := h
          obtain rfl : q = pay := Option.some.inj (hq.symm.trans hpay)
          simp
      | failed h =>
          rw [h] at hpay
          cases hpay
    · rw [if_pos rfl, Db.run, hscene'.runs] at hrun
      exact hrun
  · obtain ⟨hne, -⟩ := Fairness.mem_ahead.mp hahead
    have hless := ahead_of_taken hV (Int.lt_of_lt_of_le ha hle) htaken' hahead
    obtain ⟨j, rfl⟩ : ∃ j, k = j + 1 := Nat.exists_eq_succ_of_ne_zero (by omega)
    have hlength : runs'.rows.length = runs.rows.length := by
      rw [Table.update?_rows htaken.claimed, List.length_map]
    have hkept : runs'.get? r.runId = some r := by
      rw [if_neg hne.symm, Db.run, hscene'.runs] at hrun
      exact hrun
    obtain ⟨p', polls, runs'', t'', hsteps', hcalls, hlen, hpolls, hscene'', hheld⟩ :=
      ih j (Nat.lt_succ_self j) (p := ⟨m', p.calls ++ [(pollFor cfg r id, c)]⟩) hscene' hkept
        (Int.lt_of_lt_of_le ha hle) (by show (Fairness.ahead r a m'.store.db).card ≤ j; omega)
        (by rw [hlength]; push_cast at hroom hsplit; omega)
    refine ⟨p', (pollFor cfg r id, c) :: polls, runs'', t'', hsteps.trans hsteps', ?_,
      Nat.succ_le_succ hlen, ?_, hscene'', hheld⟩
    · rw [hcalls]
      simp
    · intro c' hc'
      rcases List.mem_cons.mp hc' with rfl | hc'
      · exact ⟨rfl, hended.mono (fun _ _ => trivial) fun _ _ => trivial⟩
      · exact hpolls c' hc'

end Worker

/-! ## The result -/

theorem exists_new_worker (db : Db) : ∃ id, db.worker id = none := by
  obtain ⟨id, hid⟩ := Infinite.exists_notMem_finset
      (db.workers.rows.map WorkerRow.workerId).toFinset
  refine ⟨id, List.find?_eq_none.mpr fun x hx hxid => hid ?_⟩
  exact List.mem_toFinset.mpr (List.mem_map.mpr ⟨x, hx, of_decide_eq_true hxid⟩)

/-- In every state that the server can be in, a run that waits or is held can be completed,
with any output that is not too large, while all the requests in progress wait: a worker
registers, polls once for each run ahead, at most, is handed the run and reports its output. -/
theorem run_can_be_completed (cfg : Config) (hids : ∀ id, cfg.parseUuid (cfg.uuidText id) = some id)
    (hV : 0 ≤ cfg.worker.visibilityTimeoutSecs) {w : World} (hw : Integrity.Intact cfg w)
    {p : ServerState} (h : Steps (Payload.service cfg) (.init w []) p) {r : RunRow}
    {pay : PayloadRow} {a : Int} (hr : p.store.run r.runId = some r)
    (hs : r.status.isClaimable = true) (ha : r.availableAt = some a)
    (hpay : p.store.db.payload r.runId = some pay) (output : Bytes)
    (hsize : output.length ≤ cfg.payloadMaxSizeBytes)
    (hroom : max p.store.now (a + 1) +
      (p.store.db.runs.rows.length + 1) * p.store.db.runs.rows.length +
      seconds cfg.worker.visibilityTimeoutSecs < timestampEnd) :
    ∃ p' id t polls, Steps (server cfg Errand) p p' ∧
      p'.calls = p.calls ++ [(registerFor r,
          .ret (.register (cfg.uuidText id) cfg.worker.heartbeatIntervalSecs))] ++
        polls ++ [(pollFor cfg r id, .ret (taskOf cfg r pay)),
          (reportFor cfg r output, .ret (.completeWorkflow .completed))] ∧
      (∀ c ∈ polls, c.1 = pollFor cfg r id ∧ Ended (fun _ => True) (fun _ => True) c.2) ∧
      polls.length ≤ (Fairness.ahead r a p.store.db).card ∧
      p'.store.run r.runId =
        some ((r.claim (cfg.uuidText id) cfg.worker.visibilityTimeoutSecs t).complete t) ∧
      p'.store.db.payload r.runId = some { pay with output := some output } := by
  have hintact : Integrity.Intact cfg p.store :=
    (h.sound (Integrity.serves cfg) (Integrity.intact_kept cfg) hw (sound_nil w)).1.invariant
      (Integrity.intact_kept cfg) hw
  have hhoused : (p.store.db.namespaceRow r.ns).isSome = true := (hintact.runs r.runId r hr).housed
  have hns : r.ns ≠ "" := by
    obtain ⟨n, hn⟩ := Option.isSome_iff_exists.mp hhoused
    exact hintact.named r.ns n hn
  have hwaits : Fairness.waits a r = true := Fairness.waits_iff.mpr ⟨hs, a, ha, Int.le_refl _⟩
  obtain ⟨id, hid⟩ := exists_new_worker p.store.db
  -- the worker registers
  have hregister : (handle cfg (registerFor r)).Can store p.calls.length _ _ p.toMoment :=
    can_register (Int.le_max_left p.store.now (a + 1)) hid hhoused hns
      (List.cons_ne_nil r.workflowType [])
  obtain ⟨m₁, c₁, hsteps₁, hended₁⟩ :=
    Prog.Can.steps (S := server cfg Errand) (r := registerFor r) trivial hregister
  obtain ⟨rfl, hscene₁⟩ : c₁ = .ret (.register (cfg.uuidText id) cfg.worker.heartbeatIntervalSecs) ∧
      Scene p.store.db.runs p.store.db.payloads (newcomer r id (max p.store.now (a + 1))) _ m₁ := by
    cases hended₁ with
    | returned h => exact ⟨congrArg Prog.ret h.1, h.2⟩
    | failed h => exact h.elim
  -- it polls until it is handed the run
  have hsame : Fairness.ahead r a m₁.store.db = Fairness.ahead r a p.store.db := by
    rw [Fairness.ahead, Fairness.ahead, hscene₁.runs]
  have hcard : (Fairness.ahead r a p.store.db).card ≤ p.store.db.runs.rows.length := by
    refine Nat.le_trans (List.toFinset_card_le _) ?_
    rw [List.length_map]
    exact List.length_filter_le _ _
  have hpolls : (((Fairness.ahead r a p.store.db).card : Int) + 1) * p.store.db.runs.rows.length ≤
      (p.store.db.runs.rows.length + 1) * p.store.db.runs.rows.length :=
    Int.mul_le_mul_of_nonneg_right (by omega) (Int.natCast_nonneg _)
  obtain ⟨p₂, polls, runs', t, hsteps₂, hcalls₂, hlen, hasked, hscene₂, hheld⟩ :=
    can_be_handed_out hids hV hns hwaits hpay (Fairness.ahead r a p.store.db).card
      (p := ⟨m₁, p.calls ++ [(registerFor r,
        .ret (.register (cfg.uuidText id) cfg.worker.heartbeatIntervalSecs))]⟩)
      hscene₁ hr (Int.lt_of_lt_of_le (Int.lt_succ a) (Int.le_max_right _ _))
        (Nat.le_of_eq (congrArg Finset.card hsame))
      (by omega)
  -- and reports its output
  have hcomplete : (handle cfg (reportFor cfg r output)).Can store p₂.calls.length _ _
      p₂.toMoment :=
    can_complete (r.claim (cfg.uuidText id) cfg.worker.visibilityTimeoutSecs t) hscene₂
      (hids r.runId) hheld rfl hpay hsize
  obtain ⟨m₃, c₃, hsteps₃, hended₃⟩ :=
    Prog.Can.steps (S := server cfg Errand) (r := reportFor cfg r output) trivial hcomplete
  cases hended₃ with
  | failed h => exact h.elim
  | returned h =>
      obtain ⟨rfl, hrun, hpayload⟩ := h
      refine ⟨_, id, t, polls, (hsteps₁.trans hsteps₂).trans hsteps₃, ?_, hasked, hlen, hrun,
        hpayload⟩
      rw [hcalls₂]
      simp

/-- Two runs are started one after the other. -/
def queued : ServerState := fireAll (Payload.service .strokes) (.init (.empty 0) [])
  ([.start (.startWorkflow ⟨"job", "queue", "type", some [7], "ns", "", none⟩)] ++
      runs 0 6 (.quiet 0 1) ++
    [.start (.startWorkflow ⟨"other", "queue", "type", some [8], "ns", "", none⟩)] ++
    runs 1 4 (.quiet 1 2))

/-- The second can be completed, although the first is ahead of it. -/
theorem run_can_be_completed_second :
    ∃ r p', queued.store.run 2 = some r ∧ (Fairness.ahead r (seconds 1) queued.store.db).card = 1 ∧
      Steps (server .strokes Errand) queued p' ∧ p'.store.HasStatus 2 .completed ∧
      (p'.store.db.payload 2).bind PayloadRow.output = some [5] := by
  have hsteps : Steps (Payload.service .strokes) (.init (.empty 0) []) queued :=
    AllEnabled.steps (by decide +kernel)
  have hrow : (queued.store.run 2).map (fun r => (r.runId, r.status, r.availableAt)) =
      some (2, .pending, some (seconds 1)) := by decide +kernel
  have hpay : queued.store.db.payload 2 = some ⟨2, [8], none⟩ := by decide +kernel
  obtain ⟨r, hr, hdata⟩ := Option.map_eq_some_iff.mp hrow
  obtain ⟨hid, hs, ha⟩ : r.runId = 2 ∧ r.status = .pending ∧ r.availableAt = some (seconds 1) := by
    simpa using hdata
  have hahead : (queued.store.run 2).map
      (fun r => (Fairness.ahead r (seconds 1) queued.store.db).card) = some 1 := by
    decide +kernel
  rw [hr] at hahead
  have hnow : queued.store.now = seconds 1 := by decide +kernel
  have hlength : queued.store.db.runs.rows.length = 2 := by decide +kernel
  obtain ⟨p', id, t, polls, hsteps', -, -, -, hrun, hpayload⟩ :=
    run_can_be_completed .strokes (fun id => (Config.strokes_uuid id).1) (by decide)
      (Integrity.intact_empty .strokes 0) hsteps
      (hid ▸ hr) (by rw [hs]; rfl) ha (hid ▸ hpay) [5] (by decide)
      (by rw [hnow, hlength]; decide)
  rw [hid] at hrun hpayload
  exact ⟨r, p', hr, Option.some.inj hahead, hsteps', ⟨_, hrun, rfl⟩, by rw [hpayload]; rfl⟩

end Completion

end Kagzi
