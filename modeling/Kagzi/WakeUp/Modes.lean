import Kagzi.Queue.Subscribers
import Kagzi.Server.Notified

/-!
# Modes of the calls

How far a call has come that waits or wakes: a poll that has found nothing makes its way to
a receiver, and a call that has inserted a run makes its way to the channel of the queue.
`monitor` reads it off the trace, and `handle_obeys` says that each call does next what its
mode asks for.
-/

namespace Kagzi

open Atomic Broadcast Notified

namespace WakeUp

/-- What a poll asks for. -/
structure Filter where
  ns : String
  taskQueue : String
  types : List String
deriving DecidableEq

/-- The key of the queue. -/
def Filter.key (f : Filter) : String := Queue.queueKey f.ns f.taskQueue

/-- Where a call has the queue of its run from. -/
inductive Source where
  | request (ns taskQueue : String)
  | template (runId : Uuid)

inductive Mode where
  | idle
  /-- The poll has found nothing. -/
  | unsubscribed (f : Filter)
  /-- It has a sender of its queue. -/
  | holding (f : Filter) (tx : Clone String)
  /-- It has a receiver. -/
  | listening (f : Filter) (rx : Nat)
  /-- It drops its receiver. -/
  | leaving (rx : Nat)
  /-- The call has inserted the run. -/
  | owes (runId : Uuid) (source : Source)
  /-- Its `pg_notify` has succeeded. -/
  | told (runId : Uuid) (key : String)
  /-- It has looked the channel of the queue up. -/
  | found (runId : Uuid) (chan : Channel String)

/-- The mode of a call, the number of times it may still wait, and the templates it has
read. -/
structure Standing where
  waits : Nat
  batch : List WorkflowRun
  mode : Mode

/-- The queue of the run, as the call knows it. -/
def Source.Names (batch : List WorkflowRun) (ns taskQueue : String) : Source → Prop
  | .request ns' taskQueue' => ns' = ns ∧ taskQueue' = taskQueue
  | .template runId => ∃ t ∈ batch, t.runId = runId ∧ t.ns = ns ∧ t.taskQueue = taskQueue

/-! ## The monitor -/

/-- The call is one of `start_workflow`. -/
def starts : Call → Bool
  | .rpc (.startWorkflow _) => true
  | _ => false

/-- What a statement makes of the standing, together with what follows up a `notify`. -/
def nextStmt (starts : Bool) (d : Standing) : (q : Stmt) → q.Result → Standing
  | .pollWorkflow ns taskQueue _ types _, .ok none =>
      match d.waits with
      | 0 => { d with mode := .idle }
      | waits + 1 => { d with waits := waits, mode := .unsubscribed ⟨ns, taskQueue, types⟩ }
  | .findDueSchedules _ _, .ok ts => { d with batch := ts, mode := .idle }
  | .createWorkflow params, .ok _ =>
      { d with mode :=
          if starts then .owes params.runId (.request params.ns params.taskQueue) else .idle }
  | .createScheduleInstance templateRunId _, .ok (some runId) =>
      { d with mode := .owes runId (.template templateRunId) }
  | _, _ => { d with mode := .idle }

/-- What an operation makes of the standing. -/
def next (starts : Bool) (d : Standing) : (q : Op) → q.Result → Standing
  | .stmt (.notify ns taskQueue), .ok () =>
      match d.mode with
      | .owes runId _ => { d with mode := .told runId (Queue.queueKey ns taskQueue) }
      | _ => { d with mode := .idle }
  | .stmt q, a => nextStmt starts d q a
  | .queue (.entry _), tx =>
      match d.mode with
      | .unsubscribed f => { d with mode := .holding f tx }
      | _ => d
  | .queue (.subscribe _), rx =>
      match d.mode with
      | .holding f _ => { d with mode := .listening f rx }
      | _ => d
  | .queue (.get _), some c =>
      match d.mode with
      | .told runId _ => { d with mode := .found runId c }
      | _ => d
  | .queue (.get _), none =>
      match d.mode with
      | .told _ _ => { d with mode := .idle }
      | _ => d
  | .queue (.send _), _ =>
      match d.mode with
      | .found _ _ => { d with mode := .idle }
      | _ => d
  | .queue (.dropReceiver _), _ =>
      match d.mode with
      | .leaving _ => { d with mode := .idle }
      | _ => d
  | .queue _, _ => d
  | .wait rx, _ => { d with mode := .leaving rx }

/-- What a call may do that neither waits nor has inserted a run: the coordinator fires the
templates it has read, and a template is written as one. -/
def Plain (d : Standing) : Stmt → Prop
  | .createScheduleInstance runId _ => ∃ t ∈ d.batch, t.runId = runId
  | .updateNextFire runId _ _ => ∃ t ∈ d.batch, t.runId = runId
  | .updateWorkflow _ workflow => workflow.status.isScheduleTemplate = true
  | _ => True

def allowedStmt (d : Standing) (q : Stmt) : Prop :=
  match d.mode with
  | .idle => Plain d q
  | .owes _ source => ∃ ns taskQueue, q = .notify ns taskQueue ∧ source.Names d.batch ns taskQueue
  | _ => False

/-- The operations of the notifier that no poll makes while it waits. -/
def Aside : Queue.Op → Prop
  | .entry _ => False
  | .subscribe _ => False
  | .recv _ => False
  | .dropReceiver _ => False
  | _ => True

/-- What a call does next. -/
def allowed (d : Standing) (q : Op) : Prop :=
  match d.mode, q with
  | .idle, .stmt q => Plain d q
  | .idle, .queue q => Aside q
  | .idle, .wait _ => False
  | .unsubscribed f, q => q = .queue (.entry f.key)
  | .holding _ tx, q => q = .queue (.subscribe tx.chan)
  | .listening _ rx, q => (∃ id, q = .queue (.dropSender id)) ∨ q = .wait rx
  | .leaving rx, q => q = .queue (.dropReceiver rx)
  | .owes _ source, q =>
      ∃ ns taskQueue, q = .stmt (.notify ns taskQueue) ∧ source.Names d.batch ns taskQueue
  | .told _ key, q => q = .queue (.get key)
  | .found _ c, q => q = .queue (.send c)

/-- The number of times that a call may wait. -/
def waits : Call → Nat
  | .rpc (.pollTask _ waits) => waits
  | _ => 0

/-- The monitor of the statements of a handler. -/
def stmtMonitor (call : Call) : Monitor Stmt Stmt.Result Standing :=
  ⟨⟨waits call, [], .idle⟩, nextStmt (starts call)⟩

/-- The monitor of a call. -/
def monitor (call : Call) : Monitor Op Op.Result Standing :=
  ⟨⟨waits call, [], .idle⟩, next (starts call)⟩

/-- Neither waiting nor about to wake anyone. -/
def Idle (d : Standing) : Prop := d.mode = .idle

/-! ## Parts of calls -/

section Parts
variable {ε α : Type} {call : Call} {d : Standing}

theorem op_obeys {q : Op} (h : allowed d q) :
    (op q : Prog Op Op.Result ε _).Obeys (monitor call) allowed d
      (fun a d' => d' = next (starts call) d q a) (fun _ _ => False) :=
  ⟨h, fun _ => rfl⟩

/-- A statement other than `notify` is one operation. -/
theorem perform_eq {q : Stmt} (h : ∀ ns taskQueue, q ≠ .notify ns taskQueue) :
    (perform q : Prog Op Op.Result ε _) = op (.stmt q) := by
  cases q with
  | notify ns taskQueue => exact absurd rfl (h ns taskQueue)
  | _ => rfl

theorem deliver_obeys {key : String} (hmode : d.mode = .idle ∨ ∃ runId, d.mode = .told runId key) :
    (onQueue (Queue.deliver key) : Prog Op Op.Result ε _).Obeys (monitor call) allowed d
      (fun _ d' => d' = { d with mode := .idle }) (fun _ _ => False) := by
  obtain ⟨waits, batch, mode⟩ := d
  rcases hmode with rfl | ⟨runId, rfl⟩
  · refine ⟨trivial, fun found => ?_⟩
    cases found with
    | none => rfl
    | some c => exact ⟨trivial, fun _ => rfl⟩
  · refine ⟨rfl, fun found => ?_⟩
    cases found with
    | none => rfl
    | some c => exact ⟨rfl, fun _ => rfl⟩

/-- A statement does to the standing of the call what it does to that of the handler. -/
theorem perform_obeys (q : Stmt) (h : allowedStmt d q) :
    (perform q : Prog Op Op.Result ε _).Obeys (monitor call) allowed d
      (fun a d' => d' = (stmtMonitor call).next d q a) (fun _ _ => False) := by
  obtain ⟨waits, batch, mode⟩ := d
  by_cases hq : ∃ ns taskQueue, q = .notify ns taskQueue
  · obtain ⟨ns, taskQueue, rfl⟩ := hq
    have hnotify : ∀ told : Standing, told.waits = waits → told.batch = batch →
        (told.mode = .idle ∨ ∃ runId, told.mode = .told runId (Queue.queueKey ns taskQueue)) →
        (onQueue (Queue.deliver (Queue.queueKey ns taskQueue)) >>= fun _ =>
          pure (Except.ok ()) : Prog Op Op.Result ε (Except StoreError Unit)).Obeys (monitor call)
          allowed told (fun _ d' => d' = ⟨waits, batch, .idle⟩) (fun _ _ => False) := by
      rintro ⟨_, _, _⟩ rfl rfl hmode
      refine (deliver_obeys hmode).bind fun _ _ heq => ?_
      exact heq
    cases mode with
    | idle =>
        refine ⟨trivial, fun a => ?_⟩
        cases a with
        | error x => rfl
        | ok _ => exact hnotify ⟨waits, batch, .idle⟩ rfl rfl (.inl rfl)
    | owes runId source =>
        obtain ⟨_, _, heq, hnames⟩ := h
        obtain ⟨rfl, rfl⟩ := Stmt.notify.inj heq
        refine ⟨⟨ns, taskQueue, rfl, hnames⟩, fun a => ?_⟩
        cases a with
        | error x => rfl
        | ok _ => exact hnotify ⟨waits, batch, .told runId _⟩ rfl rfl (.inr ⟨runId, rfl⟩)
    | _ => exact h.elim
  · have hne : ∀ ns taskQueue, q ≠ .notify ns taskQueue := fun ns taskQueue heq => hq ⟨ns, taskQueue, heq⟩
    rw [perform_eq hne]
    cases mode with
    | idle =>
        refine (op_obeys (d := ⟨waits, batch, .idle⟩) (q := .stmt q) h).mono (fun a d' hd => ?_) fun _ _ hx => hx
        rw [hd]
        cases q with
        | notify ns taskQueue => exact absurd rfl (hne ns taskQueue)
        | _ => rfl
    | owes runId source =>
        obtain ⟨ns, taskQueue, heq, -⟩ := h
        exact absurd heq (hne ns taskQueue)
    | _ => exact h.elim

/-- A handler obeys the monitor of the calls when it obeys that of its statements. -/
theorem rpc_obeys {p : Rpc α} {P : α → Standing → Prop} {X : Status → Standing → Prop}
    (h : p.Obeys (stmtMonitor call) allowedStmt d P X) :
    (rpc p).Obeys (monitor call) allowed d P X :=
  h.translate fun _ q => perform_obeys q

end Parts

/-! ## Quiet statements -/

/-- A statement that an idle call stays idle with. -/
def Quiet (starts : Bool) : Stmt → Prop
  | .pollWorkflow _ _ _ _ _ => False
  | .findDueSchedules _ _ => False
  | .createScheduleInstance _ _ => False
  | .updateNextFire _ _ _ => False
  | .createWorkflow _ => starts = false
  | .updateWorkflow _ workflow => workflow.status.isScheduleTemplate = true
  | _ => True

section Calls
variable {α : Type} {call : Call} {waits : Nat} {batch : List WorkflowRun}

theorem quiet_allowed {starts : Bool} {q : Stmt} (h : Quiet starts q) :
    allowedStmt ⟨waits, batch, .idle⟩ q ∧
      ∀ a, nextStmt starts ⟨waits, batch, .idle⟩ q a = ⟨waits, batch, .idle⟩ := by
  cases q with
  | pollWorkflow _ _ _ _ _ => exact h.elim
  | findDueSchedules _ _ => exact h.elim
  | createScheduleInstance _ _ => exact h.elim
  | updateNextFire _ _ _ => exact h.elim
  | updateWorkflow _ _ => exact ⟨h, fun _ => rfl⟩
  | createWorkflow _ =>
      refine ⟨trivial, fun a => ?_⟩
      cases a with
      | error _ => rfl
      | ok _ => rw [show starts = false from h]; rfl
  | _ => exact ⟨trivial, fun _ => rfl⟩

/-- A part of a handler with quiet statements. -/
theorem quiet_obeys {ε : Type} (call : Call) {p : Prog Stmt Stmt.Result ε α} (hp : p.Uses (Quiet (starts call))) :
    p.Obeys (stmtMonitor call) allowedStmt ⟨waits, batch, .idle⟩
      (fun _ d' => d' = ⟨waits, batch, .idle⟩) (fun _ d' => d' = ⟨waits, batch, .idle⟩) :=
  .of_uses hp fun _ hq => quiet_allowed hq

/-- The statements of the requests that neither start a run, nor poll, nor fire. -/
theorem quiet_of_may {cfg : Config} {req : Request} {q : Stmt} (h : req.may cfg q)
    (hpoll : ∀ r waits, req ≠ .pollTask r waits) (hfire : ∀ ticks, req ≠ .coordinator ticks) :
    Quiet false q := by
  cases q with
  | pollWorkflow _ _ _ _ _ =>
      obtain ⟨⟨r, waits, rfl, -⟩, -⟩ := h
      exact hpoll r waits rfl
  | findDueSchedules _ _ =>
      obtain ⟨ticks, rfl⟩ := h
      exact hfire ticks rfl
  | createScheduleInstance _ _ =>
      obtain ⟨ticks, rfl⟩ := h
      exact hfire ticks rfl
  | updateNextFire _ _ _ =>
      obtain ⟨ticks, rfl⟩ := h
      exact hfire ticks rfl
  | updateWorkflow _ _ => exact h.2.1
  | createWorkflow _ => rfl
  | _ => trivial

/-! ## The calls -/

theorem getOrCreate_quiet (starts : Bool) (ns : String) :
    (NamespaceRepository.getOrCreate ns).Uses (Quiet starts) := by
  refine (uses_sql trivial).bind fun found => ?_
  cases found with
  | some _ => trivial
  | none => exact (uses_sql trivial).bind fun now => uses_sql trivial

theorem dispatch_quiet (cfg : Config) (starts : Bool) (item : ClaimedWorkflow) :
    (WorkerService.dispatch cfg item).Uses (Quiet starts) := by
  refine Prog.Uses.bind (uses_sql trivial).attempt fun _ => ?_
  refine Prog.Uses.bind (Prog.Uses.attempt ?_) fun _ => trivial
  refine recordLifecycleEvent_uses ?_ _ _ _ (fun _ _ _ _ => trivial) fun _ _ _ _ => ⟨trivial, trivial⟩
  intro q hq
  cases q with
  | latestStep _ _ => trivial
  | latestStepKind _ _ => trivial
  | getRetryInfo _ _ => trivial
  | listSteps _ _ _ _ => trivial
  | newUuid => trivial
  | random => trivial
  | _ => cases hq

/-- The call owes the notification of its run when the creation has succeeded. -/
def AfterCreate (runId : Uuid) (ns taskQueue : String) : Except StoreError Uuid → Standing → Prop
  | .ok _, d => d = ⟨0, [], .owes runId (.request ns taskQueue)⟩
  | .error _, d => d = ⟨0, [], .idle⟩

/-- The insertion of a run by `start_workflow` is followed up by its notification. -/
theorem startWorkflow_obeys (cfg : Config) (req : StartWorkflowRequest) :
    (WorkflowService.startWorkflow cfg req).Obeys (stmtMonitor (.rpc (.startWorkflow req)))
      allowedStmt ⟨0, [], .idle⟩ (fun _ => Idle) (fun _ => Idle) := by
  have hidle : ∀ {β : Type} {p : Rpc β}, p.Uses (Quiet true) → ∀ {f : β → Rpc Response},
      (∀ b, (f b).Obeys (stmtMonitor (.rpc (.startWorkflow req))) allowedStmt ⟨0, [], .idle⟩
        (fun _ => Idle) (fun _ => Idle)) →
      (p >>= f).Obeys (stmtMonitor (.rpc (.startWorkflow req))) allowedStmt ⟨0, [], .idle⟩
        (fun _ => Idle) (fun _ => Idle) := by
    intro β p hp f hf
    refine Prog.Obeys.bind ((quiet_obeys (.rpc (.startWorkflow req)) hp).mono (fun _ _ h => h)
      fun _ _ h => h ▸ rfl) fun b d hd => ?_
    rw [hd]
    exact hf b
  refine hidle (uses_requireNonEmpty _ _) fun _ => hidle (uses_requireNonEmpty _ _) fun _ => ?_
  refine hidle (uses_requireNonEmpty _ _) fun _ => hidle (uses_requireNonEmpty _ _) fun _ => ?_
  refine hidle (uses_call (getOrCreate_quiet true _)) fun _ =>
    hidle (uses_stmt (q := .newUuid) trivial) fun runId => ?_
  refine Prog.Obeys.bind (P := AfterCreate runId req.ns req.taskQueue) (Prog.Obeys.attempt
      (P := fun _ d => d = (⟨0, [], .owes runId (.request req.ns req.taskQueue)⟩ : Standing))
      (X := fun _ d => d = (⟨0, [], .idle⟩ : Standing)) ?_ (fun _ _ h => h) (fun _ _ h => h)) ?_
  · unfold WorkflowRepository.create
    dsimp only
    cases validatePayloadSize cfg.payloadMaxSizeBytes (payloadToBytes req.input) "Workflow input" with
    | error x => exact rfl
    | ok _ =>
        refine ⟨trivial, fun a => ?_⟩
        cases a with
        | ok id => exact rfl
        | error x => exact rfl
  · rintro (e | id) d hd
    · dsimp only
      obtain rfl : d = ⟨0, [], .idle⟩ := hd
      split
      next =>
        refine hidle (uses_stmt (q := .findActiveByExternalId _ _) trivial) fun existing => ?_
        exact hidle (uses_orFail _ _) fun _ => rfl
      next => exact rfl
    · obtain rfl : d = _ := hd
      refine Prog.Obeys.bind (P := fun _ => Idle) (Prog.Obeys.attempt (P := fun _ => Idle) (X := fun _ => Idle)
        ⟨⟨_, _, rfl, rfl, rfl⟩, fun a => ?_⟩ (fun _ _ h => h) (fun _ _ h => h)) fun _ _ h => h
      cases a with
      | ok _ => exact rfl
      | error x => exact rfl

/-- Of the templates it has read the coordinator fires one after the other. -/
theorem fireTemplate_obeys (cfg : Config) (now : Int) {t : WorkflowRun} (ht : t ∈ batch) :
    (Coordinator.fireTemplate cfg now t).Obeys (stmtMonitor call) allowedStmt ⟨waits, batch, .idle⟩
      (fun _ d => d = ⟨waits, batch, .idle⟩) (fun _ d => d = ⟨waits, batch, .idle⟩) := by
  have hmoves : ∀ next last, (sql (.updateNextFire t.runId next last)).Obeys (stmtMonitor call)
      allowedStmt ⟨waits, batch, .idle⟩ (fun _ d => d = ⟨waits, batch, .idle⟩)
      (fun _ d => d = ⟨waits, batch, .idle⟩) := by
    refine fun next last => ⟨⟨t, ht, rfl⟩, fun a => ?_⟩
    cases a with
    | ok _ => exact rfl
    | error x => exact rfl
  unfold Coordinator.fireTemplate
  split
  next => exact rfl
  next => exact rfl
  next => exact hmoves _ _
  next fireAt next _ =>
    refine ⟨trivial, fun granted => ?_⟩
    rcases granted with x | (_ | _)
    · exact rfl
    · exact rfl
    · refine ⟨⟨t, ht, rfl⟩, fun created => ?_⟩
      rcases created with x | (_ | runId)
      · exact rfl
      · exact hmoves _ _
      · refine ⟨⟨t.ns, t.taskQueue, rfl, t, ht, rfl, rfl, rfl⟩, fun a => ?_⟩
        cases a with
        | ok _ => exact hmoves _ _
        | error x => exact hmoves _ _

theorem run_obeys (cfg : Config) (ticks : Nat) {d : Standing} (hd : Idle d) :
    (Coordinator.run cfg ticks).Obeys (stmtMonitor call) allowedStmt d (fun _ => Idle)
      (fun _ => Idle) := by
  have hfire : ∀ (waits : Nat) (batch : List WorkflowRun) (now : Int) (ts : List WorkflowRun),
      (∀ t ∈ ts, t ∈ batch) → (Coordinator.fireTemplates cfg now ts).Obeys (stmtMonitor call)
        allowedStmt ⟨waits, batch, .idle⟩ (fun _ d => d = ⟨waits, batch, .idle⟩)
        (fun _ d => d = ⟨waits, batch, .idle⟩) := by
    intro waits batch now ts hts
    induction ts with
    | nil => exact rfl
    | cons t ts ih =>
        refine (fireTemplate_obeys cfg now (hts t (List.mem_cons_self ..))).bind ?_
        rintro _ _ rfl
        exact ih fun t' ht' => hts t' (List.mem_cons_of_mem _ ht')
  have htick : ∀ d, Idle d → (Coordinator.tick cfg).Obeys (stmtMonitor call) allowedStmt d
      (fun _ => Idle) (fun _ => Idle) := by
    rintro ⟨waits, batch, _⟩ rfl
    refine Prog.Obeys.bind (P := fun _ => Idle) (Prog.Obeys.attempt (P := fun _ => Idle)
      (X := fun _ => Idle) ?_ (fun _ _ h => h) fun _ _ h => h) fun fired d hd => ?_
    · refine ⟨trivial, fun now => ?_⟩
      cases now with
      | error x => exact rfl
      | ok now =>
          refine ⟨trivial, fun ts => ?_⟩
          cases ts with
          | error x => exact rfl
          | ok ts =>
              exact (hfire waits ts now ts fun _ h => h).mono (fun _ _ h => h ▸ rfl) fun _ _ h => h ▸ rfl
    · obtain ⟨waits, batch, _⟩ := d
      obtain rfl : _ = Mode.idle := hd
      refine ⟨trivial, fun a => ?_⟩
      cases a with
      | ok _ => exact rfl
      | error x => exact rfl
  induction ticks generalizing d with
  | zero => exact hd
  | succ ticks ih => exact (htick d hd).bind fun _ _ hd => (ih hd).bind fun _ _ hd => hd

/-- A poll that has found nothing makes its way to a receiver. -/
theorem pollLoop_obeys (cfg : Config) (req : PollTaskRequest) (types : List String) (n waits : Nat) :
    (pollLoop cfg req types waits).Obeys (monitor (.rpc (.pollTask req n))) allowed
      ⟨waits, batch, .idle⟩ (fun _ => Idle) (fun _ => Idle) := by
  have hdispatch : ∀ waits item, (rpc (WorkerService.dispatch cfg item)).Obeys
      (monitor (.rpc (.pollTask req n))) allowed ⟨waits, batch, .idle⟩ (fun _ => Idle)
      (fun _ => Idle) := fun waits item =>
    rpc_obeys ((quiet_obeys (.rpc (.pollTask req n)) (dispatch_quiet cfg _ item)).mono
      (fun _ _ h => h ▸ rfl) fun _ _ h => h ▸ rfl)
  induction waits with
  | zero =>
      refine ⟨trivial, fun a => ?_⟩
      rcases a with x | (_ | item)
      · exact rfl
      · exact rfl
      · exact hdispatch 0 item
  | succ waits ih =>
      refine ⟨trivial, fun a => ?_⟩
      rcases a with x | (_ | item)
      · exact rfl
      · refine ⟨rfl, fun tx => ⟨rfl, fun rx => ⟨.inl ⟨_, rfl⟩, fun _ => ?_⟩⟩⟩
        exact ⟨.inr rfl, fun _ => ⟨rfl, fun _ => ih⟩⟩
      · exact hdispatch (waits + 1) item

theorem pollTask_obeys (cfg : Config) (req : PollTaskRequest) (waits : Nat) :
    (pollTask cfg req waits).Obeys (monitor (.rpc (.pollTask req waits))) allowed
      ⟨waits, [], .idle⟩ (fun _ => Idle) (fun _ => Idle) := by
  have hidle : ∀ {β : Type} {p : Rpc β}, p.Uses (Quiet false) → ∀ {f : β → Notified.Code Response},
      (∀ b, (f b).Obeys (monitor (.rpc (.pollTask req waits))) allowed ⟨waits, [], .idle⟩
        (fun _ => Idle) (fun _ => Idle)) →
      (rpc p >>= f).Obeys (monitor (.rpc (.pollTask req waits))) allowed ⟨waits, [], .idle⟩
        (fun _ => Idle) (fun _ => Idle) := by
    intro β p hp f hf
    refine Prog.Obeys.bind (rpc_obeys ((quiet_obeys (.rpc (.pollTask req waits)) hp).mono
      (fun _ _ h => h) fun _ _ h => h ▸ rfl)) fun b d hd => ?_
    rw [hd]
    exact hf b
  refine hidle (uses_orFail _ _) fun workerId => ?_
  split
  next => exact rfl
  next =>
    refine hidle (uses_requireNonEmpty _ _) fun _ => hidle (uses_stmt (q := .findWorker _) trivial) fun found => ?_
    refine hidle (uses_orFail _ _) fun worker => ?_
    split
    next => exact rfl
    next =>
      split
      next => exact rfl
      next =>
        split
        next => exact rfl
        next =>
          dsimp only
          split
          next => exact rfl
          next => exact pollLoop_obeys cfg req _ waits waits

theorem background_obeys {notifier : Queue.Call} (h : (Queue.handle notifier).Uses Aside) :
    (background notifier).Obeys (monitor call) allowed ⟨waits, batch, .idle⟩ (fun _ => Idle)
      (fun _ => Idle) := by
  have huses : ((Queue.handle notifier).translate fun q =>
      (op (.queue q) : Prog Op Op.Result Queue.QueueError _)).Uses
      fun q => ∃ q', q = .queue q' ∧ Aside q' :=
    h.translate fun q hq => Prog.uses_query.mpr ⟨q, rfl, hq⟩
  refine Prog.Obeys.bind (P := fun _ => Idle) (Prog.Obeys.attempt (P := fun _ => Idle) (X := fun _ => Idle)
    ((Prog.Obeys.of_uses huses ?_).mono (fun _ _ h => h ▸ rfl) fun _ _ h => h ▸ rfl)
    (fun _ _ h => h) fun _ _ h => h) fun _ _ h => h
  rintro _ ⟨q, rfl, hq⟩
  refine ⟨hq, fun a => ?_⟩
  cases q with
  | get key => cases a <;> rfl
  | _ => rfl

/-- Every call does next what its mode asks for, and is idle in the end. -/
theorem handle_obeys (cfg : Config) (call : Call) :
    (Notified.handle cfg call).Obeys (monitor call) allowed (monitor call).init (fun _ => Idle)
      (fun _ => Idle) := by
  have hrpc : ∀ {req : Request}, (Kagzi.handle cfg req).Obeys (stmtMonitor (.rpc req)) allowedStmt
      ⟨0, [], .idle⟩ (fun _ => Idle) (fun _ => Idle) →
      (rpc (Kagzi.handle cfg req) >>= fun resp => pure (some resp)).Obeys (monitor (.rpc req)) allowed
        ⟨0, [], .idle⟩ (fun _ => Idle) (fun _ => Idle) :=
    fun h => (rpc_obeys h).bind fun _ _ hd => hd
  have hquiet : ∀ {req : Request}, (∀ r waits, req ≠ .pollTask r waits) →
      (∀ ticks, req ≠ .coordinator ticks) → starts (.rpc req) = false →
      (Kagzi.handle cfg req).Obeys (stmtMonitor (.rpc req)) allowedStmt ⟨0, [], .idle⟩
        (fun _ => Idle) (fun _ => Idle) := by
    intro req hpoll hfire hstarts
    refine (quiet_obeys (.rpc req) ((handle_uses cfg req).mono fun q hq => ?_)).mono
      (fun _ _ h => h ▸ rfl) fun _ _ h => h ▸ rfl
    rw [hstarts]
    exact quiet_of_may hq hpoll hfire
  cases call with
  | listener rounds =>
      refine background_obeys (Prog.Uses.bind ⟨trivial, fun r => (Prog.uses_ofExcept r).bind fun _ => ?_⟩ fun _ => trivial)
      exact Queue.Subscribers.listenLoop_uses trivial trivial trivial (fun _ => trivial) (fun _ => trivial) rounds
  | remote ns taskQueue =>
      exact background_obeys ⟨trivial, fun r => (Prog.uses_ofExcept r).bind fun _ => trivial⟩
  | rpc req =>
      cases req with
      | pollTask req waits => exact (pollTask_obeys cfg req waits).bind fun _ _ hd => hd
      | startWorkflow req => exact hrpc (startWorkflow_obeys cfg req)
      | coordinator ticks =>
          refine hrpc (Prog.Obeys.bind (run_obeys cfg ticks (d := ⟨0, [], .idle⟩) rfl) fun _ _ hd => hd)
      | _ => exact hrpc (hquiet nofun nofun rfl)

end Calls

end WakeUp

end Kagzi
