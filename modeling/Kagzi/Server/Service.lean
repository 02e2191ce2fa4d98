import Kagzi.Server.WorkflowService
import Kagzi.Server.WorkerService
import Kagzi.Server.ScheduleService
import Kagzi.Server.Coordinator

/-!
# The server

All handlers over one store.  `handle` gives the program of a request, and
`server` is the service that accepts the requests of a given kind.  The theorems
speak about its runs (`Steps`).
-/

namespace Kagzi

open Atomic

/-- The program of a request. -/
def handle (cfg : Config) : Request → Rpc Response
  | .startWorkflow req => WorkflowService.startWorkflow cfg req
  | .getWorkflow req => WorkflowService.getWorkflow cfg req
  | .cancelWorkflow req => WorkflowService.cancelWorkflow cfg req
  | .retryWorkflow req => WorkflowService.retryWorkflow cfg req
  | .terminateWorkflow req => WorkflowService.terminateWorkflow cfg req
  | .register req => WorkerService.register cfg req
  | .heartbeat req => WorkerService.heartbeat cfg req
  | .deregister req => WorkerService.deregister cfg req
  | .pollTask req waits => WorkerService.pollTask cfg req waits
  | .beginStep req => WorkerService.beginStep cfg req
  | .completeStep req => WorkerService.completeStep cfg req
  | .failStep req => WorkerService.failStep cfg req
  | .completeWorkflow req => WorkerService.completeWorkflow cfg req
  | .failWorkflow req => WorkerService.failWorkflow cfg req
  | .sleep req => WorkerService.sleep cfg req
  | .createWorkflowSchedule req => ScheduleService.createWorkflowSchedule cfg req
  | .updateWorkflowSchedule req => ScheduleService.updateWorkflowSchedule cfg req
  | .deleteWorkflowSchedule req => ScheduleService.deleteWorkflowSchedule cfg req
  | .triggerWorkflowSchedule req => ScheduleService.triggerWorkflowSchedule cfg req
  | .pauseWorkflowSchedule req => ScheduleService.pauseWorkflowSchedule cfg req
  | .resumeWorkflowSchedule req => ScheduleService.resumeWorkflowSchedule cfg req
  | .drainWorker workerId => WorkerService.drainWorker cfg workerId
  | .enableNamespace ns => NamespaceService.enableNamespace ns
  | .disableNamespace ns => NamespaceService.disableNamespace ns
  | .coordinator ticks => do
      let errors ← Coordinator.run cfg ticks
      pure (.coordinator errors)

/-- The server, for the requests that satisfy `accepts`. -/
def server (cfg : Config) (accepts : Request → Prop) :
    Service Stmt Stmt.Result World Env Request Status Response :=
  { store with spawn := handle cfg, accepts := accepts }

@[simp] theorem server_toEngine (cfg : Config) (accepts : Request → Prop) :
    (server cfg accepts).toEngine = store := rfl

instance (cfg : Config) (accepts : Request → Prop) [DecidablePred accepts] :
    DecidablePred (server cfg accepts).accepts :=
  inferInstanceAs (DecidablePred accepts)

instance (cfg : Config) (accepts : Request → Prop) (i : Nat) (e : Env) (q : Stmt) (m : Now) :
    Decidable ((server cfg accepts).admits i e q m) :=
  inferInstanceAs (Decidable (store.admits i e q m))

/-- A state of the server. -/
abbrev ServerState := Pool Stmt Stmt.Result World Env Request Status Response

/-! ## Judgements of parts of handlers -/

section Parts
variable {M : Engine Stmt Stmt.Result World Env} {Γ : Condition Stmt Stmt.Result World Env} {i : Nat}
variable {K : Now → Prop} {α β : Type} {P : β → Now → Prop} {X : Status → Now → Prop}

theorem sat_orFail_bind {a : Option α} {status : Status} {f : α → Rpc β}
    (h : ∀ x, a = some x → Sat M Γ i K (f x) P X) (hfail : ∀ m, K m → X status m) :
    Sat M Γ i K (orFail a status >>= f) P X := by
  cases a with
  | none => exact hfail
  | some x => exact h x rfl

theorem sat_uuid_bind {cfg : Config} {text message : String} {f : Uuid → Rpc β}
    (h : ∀ runId, cfg.parseUuid text = some runId → Sat M Γ i K (f runId) P X)
    (hfail : ∀ x m, K m → X x m) : Sat M Γ i K (cfg.uuid text message >>= f) P X :=
  sat_orFail_bind h fun m hm => hfail _ m hm

theorem sat_requireNonEmpty_bind {value field : String} {f : Unit → Rpc β}
    (h : Sat M Γ i K (f ()) P X) (hfail : ∀ x m, K m → X x m) :
    Sat M Γ i K (requireNonEmpty value field >>= f) P X := by
  unfold requireNonEmpty
  split
  next => exact hfail _
  next => exact h

variable {answers : (q : Stmt) → q.Result → Prop} {allowed : Stmt → Prop} {R : β → Prop}
variable {Y : Status → Prop}

theorem within_stmt {q : Stmt} {R : q.Ans → Prop} (h : allowed q)
    (hok : ∀ a, answers q (.ok a) → R a) (herror : ∀ x, answers q (.error x) → Y (mapStoreError x)) :
    (stmt q).Within answers allowed R Y :=
  (within_sql h hok herror).mapError fun _ h => h

theorem within_orFail_bind {a : Option α} {status : Status} {f : α → Rpc β}
    (h : ∀ x, a = some x → (f x).Within answers allowed R Y) (hfail : a = none → Y status) :
    (orFail a status >>= f).Within answers allowed R Y := by
  cases a with
  | none => exact hfail rfl
  | some x => exact h x rfl

theorem within_uuid_bind {cfg : Config} {text message : String} {f : Uuid → Rpc β}
    (h : ∀ runId, cfg.parseUuid text = some runId → (f runId).Within answers allowed R Y)
    (hfail : cfg.parseUuid text = none → Y (invalidArgumentError message)) :
    (cfg.uuid text message >>= f).Within answers allowed R Y :=
  within_orFail_bind h hfail

theorem within_requireNonEmpty_bind {value field : String} {f : Unit → Rpc β}
    (h : value ≠ "" → (f ()).Within answers allowed R Y)
    (hfail : value = "" → Y (invalidArgumentError (field ++ " is required"))) :
    (requireNonEmpty value field >>= f).Within answers allowed R Y := by
  unfold requireNonEmpty
  split
  next hempty => exact hfail hempty
  next hne => exact h hne

end Parts

/-! ## The clock -/

/-- The statements so far are not of the future. -/
def Dated (m : Now) : Prop := ∀ ran ∈ m.trace, ran.env.now ≤ m.store.now

theorem dated_invariant (M : Engine Stmt Stmt.Result World Env) (hexec : M.exec = store.exec)
    (hadm : ∀ i e q m, M.admits i e q m → m.store.now ≤ e.now) : Invariant M Dated := by
  intro i e q m hm ha ran hran
  have hnow : (m.after M i e q).store.now = e.now := by simp [hexec]
  rw [hnow]
  rcases List.mem_cons.mp hran with rfl | hran
  · exact Int.le_refl _
  · exact Int.le_trans (hm ran hran) (hadm i e q m ha)

/-! ## A deployment to compute with -/

/-- Every ten seconds. -/
def tenSeconds : Recurrence := .every 10000000 (by decide)

/-- The default settings, with identifiers of one digit and two cron
expressions. -/
def Config.sample : Config where
  worker := ⟨10, 60, 45⟩
  coordinator := ⟨100, 30, 50⟩
  payloadMaxSizeBytes := 2097152
  parseUuid text := ["0", "1", "2", "3", "4", "5", "6", "7", "8", "9"].idxOf? text
  uuidText id := ["0", "1", "2", "3", "4", "5", "6", "7", "8", "9"].getD id ""
  cronSchedule expr :=
    if expr = "0 * * * * *" then .ok (.every 60000000 (by decide))
    else if expr = "*/10 * * * * *" then .ok tenSeconds
    else .error "unknown expression"
  utf8 _ := none
  bytes _ := []

/-- The same, with strings of strokes for identifiers, so that each has a text. -/
def Config.strokes : Config :=
  { Config.sample with
    parseUuid := fun text =>
      if text ≠ "" ∧ text.toList.all (· = '1') = true then some (text.length - 1) else none
    uuidText := fun id => String.ofList (List.replicate (id + 1) '1') }

theorem Config.strokes_uuid (id : Uuid) :
    Config.strokes.parseUuid (Config.strokes.uuidText id) = some id ∧ Config.strokes.uuidText id ≠ "" := by
  have hne : String.ofList (List.replicate (id + 1) '1') ≠ "" := by
    intro h
    have := congrArg String.length h
    simp at this
  refine ⟨?_, hne⟩
  show (if _ then some (String.length _ - 1) else none) = some id
  rw [if_pos ⟨hne, by simp [Config.strokes]⟩]
  simp [Config.strokes]

/-- A supply without faults or locks, at a number of seconds. -/
def Env.quiet (secs : Int) (fresh : Uuid) : Env :=
  ⟨seconds secs, seconds secs, fresh, [], 0, false⟩

/-- The request number `i` runs `n` statements in the supply `e`. -/
def runs {R : Type} (i n : Nat) (e : Env) : List (Action Env R) := List.replicate n (.exec i e)

/-- The request number 0 creates a schedule that is due every ten seconds. -/
def createTenSeconds (maxCatchup : Option Int) : List (Action Env Request) :=
  [.start (.createWorkflowSchedule ⟨"ns", "s", "queue", "type", "*/10 * * * * *", none, none,
      maxCatchup, none⟩)] ++ runs 0 9 (.quiet 0 1)

/-- The row of its template. -/
def tenSecondsRow (maxCatchup : Int) : RunRow where
  runId := 1
  ns := "ns"
  externalId := "schedule:s"
  taskQueue := "queue"
  workflowType := "type"
  status := .scheduled
  lockedBy := none
  attempts := 0
  createdAt := some 0
  startedAt := none
  finishedAt := none
  retryPolicy := none
  version := some ""
  error := none
  availableAt := some (seconds 10)
  cronExpr := some "*/10 * * * * *"
  scheduleId := none
  lastFiredAt := none
  maxCatchup := maxCatchup

/-- The store with the template, and nothing else. -/
def tenSecondsWorld (maxCatchup : Int) : World :=
  (fireAll (server .sample fun _ => True) (.init (.empty 0) [])
    (createTenSeconds (some maxCatchup))).store

end Kagzi
