import Kagzi.Logic.Monitor
import Kagzi.Queue.Notifier
import Kagzi.Server.Footprint

/-!
# The server with its notifier

In `Server.Service` a call of `poll_task` just polls again some time after it has found
nothing.  Here it subscribes to its queue, waits for a notification or the deadline, and drops
its receiver, as `worker_service.rs` has it.  `Stmt.notify` is the `pg_notify` of the
notifier, which a handler follows up by waking the local subscribers (`perform`); all other
handlers are those of `Server.Service`.  The listener of the notifier runs next to them, and
other servers notify as well.

A step is one statement, or one operation on the map of the channels or on a channel.
-/

namespace Kagzi

open Atomic Broadcast

namespace Notified

/-! ## The operations -/

inductive Op where
  | stmt (q : Stmt)
  | queue (q : Queue.Op)
  /-- `tokio::time::timeout(remaining, rx.recv())`. -/
  | wait (rx : Nat)

/-- The answers of the operations.  Of a wait that timed out it is `none`. -/
@[reducible] def Op.Result : Op → Type
  | .stmt q => q.Result
  | .queue q => q.Result
  | .wait _ => Option Received

/-- The database, and the notifier of the server. -/
structure State where
  world : World
  queue : Queue.State

/-- What the surroundings do at a step. -/
structure Supply where
  env : Env
  queue : Queue.Supply
  /-- The deadline of the call has come. -/
  elapsed : Bool

/-- A `pg_notify` that has succeeded is on its way to the listener. -/
def sent : (q : Stmt) → q.Result → Queue.State → Queue.State
  | .notify ns taskQueue, .ok _, s => { s with wire := s.wire ++ [Queue.queueKey ns taskQueue] }
  | _, _, s => s

/-- Carry out an operation. -/
def exec (capacity : Nat) (e : Supply) : (q : Op) → State → q.Result × State
  | .stmt q, s =>
      ((store.exec e.env q s.world).1,
        ⟨(store.exec e.env q s.world).2, sent q (store.exec e.env q s.world).1 s.queue⟩)
  | .queue q, s => ((Queue.exec capacity e.queue q s.queue).1,
      ⟨s.world, (Queue.exec capacity e.queue q s.queue).2⟩)
  | .wait rx, s =>
      if e.elapsed then (none, s)
      else (some (Queue.exec capacity e.queue (.recv rx) s.queue).1,
        ⟨s.world, (Queue.exec capacity e.queue (.recv rx) s.queue).2⟩)

/-- A wait ends when its receiver can be read, or at the deadline. -/
def CanRun (e : Supply) : Op → State → Prop
  | .stmt q, s => s.world.now ≤ e.env.now ∧
      (∀ id ∈ q.newRun e.env, id ∉ s.world.retired) ∧ e.env.began ≤ e.env.now
  | .queue q, s => Queue.CanRun e.queue q s.queue
  | .wait rx, s => e.elapsed = true ∨ s.queue.registry.Readable rx

instance (e : Supply) (q : Op) (s : State) : Decidable (CanRun e q s) :=
  match q with
  | .stmt q =>
      inferInstanceAs (Decidable (s.world.now ≤ e.env.now ∧
        (∀ id ∈ q.newRun e.env, id ∉ s.world.retired) ∧ e.env.began ≤ e.env.now))
  | .queue q => inferInstanceAs (Decidable (Queue.CanRun e.queue q s.queue))
  | .wait rx => inferInstanceAs (Decidable (e.elapsed = true ∨ s.queue.registry.Readable rx))

/-! ## The handlers -/

abbrev Code (α : Type) := Prog Op Op.Result Status α

/-- One operation. -/
def op {ε : Type} (q : Op) : Prog Op Op.Result ε q.Result := .query q

/-- A function of the notifier. -/
def onQueue {ε α : Type} (p : Queue.Code α) : Prog Op Op.Result ε (Except Queue.QueueError α) :=
  (p.translate fun q => op (.queue q)).attempt

/-- A statement of a handler.  `notify` wakes the local subscribers when its `pg_notify` has
succeeded. -/
def perform {ε : Type} : (q : Stmt) → Prog Op Op.Result ε q.Result
  | .notify ns taskQueue => do
      match ← op (.stmt (.notify ns taskQueue)) with
      | .ok () => do
          let _ ← onQueue (Queue.deliver (Queue.queueKey ns taskQueue))
          pure (.ok ())
      | .error x => pure (.error x)
  | q => op (.stmt q)

/-- A handler, or a part of one. -/
def rpc {α : Type} (p : Rpc α) : Code α := p.translate perform

/-- The loop of `poll_task`, for a number of waits. -/
def pollLoop (cfg : Config) (req : PollTaskRequest) (types : List String) : Nat → Code Response
  | 0 => do
      match ← rpc (stmt (.pollWorkflow req.ns req.taskQueue req.workerId types
        cfg.worker.visibilityTimeoutSecs)) with
      | some item => rpc (WorkerService.dispatch cfg item)
      | none => pure (.pollTask "" "" [])
  | waits + 1 => do
      match ← rpc (stmt (.pollWorkflow req.ns req.taskQueue req.workerId types
        cfg.worker.visibilityTimeoutSecs)) with
      | some item => rpc (WorkerService.dispatch cfg item)
      | none => do
          match ← onQueue (Queue.subscribe req.ns req.taskQueue) with
          | .ok rx => do
              let _ ← op (.wait rx)
              let _ ← op (.queue (.dropReceiver rx))
              pollLoop cfg req types waits
          -- `subscribe` has no error
          | .error _ => pollLoop cfg req types waits

/-- `poll_task`. -/
def pollTask (cfg : Config) (req : PollTaskRequest) (waits : Nat) : Code Response := do
  let workerId ← rpc (cfg.uuid req.workerId "Invalid worker_id")
  if req.workflowTypes.isEmpty then
    .fail (invalidArgumentError "workflow_types cannot be empty")
  else do
    rpc (requireNonEmpty req.ns "namespace")
    let found ← rpc (stmt (.findWorker workerId))
    let worker ← rpc (orFail found
      (preconditionFailedError "Worker not registered or offline. Call Register first."))
    if worker.ns ≠ req.ns ∨ worker.taskQueue ≠ req.taskQueue then
      .fail (preconditionFailedError
        "Worker not registered for the requested namespace/task_queue")
    else if worker.status = .offline then
      .fail (preconditionFailedError
        "Worker not registered or offline. Call Register first.")
    else if worker.status = .draining then
      .fail (preconditionFailedError "Worker is draining and not accepting new work")
    else
      let types := worker.workflowTypes.filter fun t => req.workflowTypes.contains t
      if types.isEmpty then
        .fail (preconditionFailedError "Worker is not registered for the requested workflow types")
      else pollLoop cfg req types waits

/-! ## The service -/

/-- A request, or what runs next to the requests. -/
inductive Call where
  | rpc (req : Request)
  /-- The listener of the notifier, for a number of rounds. -/
  | listener (rounds : Nat)
  /-- Another server notifies. -/
  | remote (ns taskQueue : String)

/-- A call of the notifier that nobody waits for. -/
def background (call : Queue.Call) : Code (Option Response) := do
  let _ ← onQueue (Queue.handle call)
  pure none

/-- The program of a call. -/
def handle (cfg : Config) : Call → Code (Option Response)
  | .rpc (.pollTask req waits) => do
      let resp ← pollTask cfg req waits
      pure (some resp)
  | .rpc req => do
      let resp ← rpc (Kagzi.handle cfg req)
      pure (some resp)
  | .listener rounds => background (.start rounds)
  | .remote ns taskQueue => background (.remote ns taskQueue)

/-- The server, with channels that keep `capacity` messages. -/
def service (cfg : Config) (capacity : Nat) :
    Service Op Op.Result State Supply Call Status (Option Response) where
  exec := exec capacity
  admits _ e q m := CanRun e q m.store
  spawn := handle cfg
  accepts _ := True

instance (cfg : Config) (capacity : Nat) : DecidablePred (service cfg capacity).accepts :=
  fun _ => .isTrue trivial

instance (cfg : Config) (capacity i : Nat) (e : Supply) (q : Op)
    (m : Moment Op Op.Result State Supply) :
    Decidable ((service cfg capacity).admits i e q m) :=
  inferInstanceAs (Decidable (CanRun e q m.store))

/-- A state of the server. -/
abbrev Server := Pool Op Op.Result State Supply Call Status (Option Response)

end Notified

end Kagzi
