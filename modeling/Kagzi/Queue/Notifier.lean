import Kagzi.Logic.Process
import Kagzi.Logic.Broadcast

/-!
# The queue notifier

`PostgresNotifier` of `postgres.rs`.  `notify` sends the key of a queue through the
database to the listeners of all servers, and wakes the local subscribers; `start` is the
listener, which also cleans up.  The calls of one server run concurrently, and each
operation on the map and each on a channel is one step.  The lock that a reference into
the map holds is left out, which allows more orders of the steps.

The supply of a step says what the surroundings do: whether the database fails, and what
the `select!` of the listener finds.
-/

namespace Kagzi

open Atomic Broadcast

namespace Queue

/-! ## The operations -/

/-- `QueueError`. -/
inductive QueueError where
  | database
deriving DecidableEq, Repr

/-- What the `select!` of the listener finds. -/
inductive Wake where
  | shutdown
  | tick
  | notification (payload : String)
  /-- The connection is lost. -/
  | error
deriving DecidableEq

/-- An operation on the database, on the map `channels` or on a channel. -/
inductive Op where
  /-- `SELECT pg_notify('kagzi_work', $1)`. -/
  | pgNotify (payload : String)
  /-- `connect_with` and `listen`. -/
  | listen
  | select
  /-- `entry(key).or_insert_with(..).clone()`. -/
  | entry (key : String)
  | get (key : String)
  /-- `retain` of the channels whose `receiver_count` is not zero. -/
  | retain
  | subscribe (chan : Channel String)
  /-- A clone of a sender is dropped. -/
  | dropSender (id : Nat)
  | send (chan : Channel String)
  | recv (rx : Nat)
  | dropReceiver (rx : Nat)

/-- The answers of the operations. -/
@[reducible] def Op.Result : Op → Type
  | .pgNotify _ => Except QueueError Unit
  | .listen => Except QueueError Unit
  | .select => Wake
  | .entry _ => Clone String
  | .get _ => Option (Channel String)
  | .retain => Unit
  | .subscribe _ => Nat
  | .dropSender _ => Unit
  | .send _ => Unit
  | .recv _ => Received
  | .dropReceiver _ => Unit

/-- The map with its channels, and the payloads on their way to the listener. -/
structure State where
  registry : Registry String
  wire : List String

/-- What the surroundings do at a step. -/
structure Supply where
  /-- The database fails, or refuses the statement. -/
  fault : Bool
  wake : Wake

/-- Nothing fails. -/
def Supply.quiet : Supply := ⟨false, .tick⟩

/-- `pg_notify`: the payload is on its way.  A payload that the database refuses, of 8000
bytes or more or with a NUL, is a fault, too. -/
def pgNotify (e : Supply) (payload : String) (s : State) : Except QueueError Unit × State :=
  if e.fault then (.error .database, s) else (.ok (), { s with wire := s.wire ++ [payload] })

/-- A connection that is made anew has missed what was sent before. -/
def listen (e : Supply) (s : State) : Except QueueError Unit × State :=
  if e.fault then (.error .database, s) else (.ok (), { s with wire := [] })

/-- The payload of a notification is taken. -/
def select (e : Supply) (s : State) : Wake × State :=
  match e.wake with
  | .notification payload => (.notification payload, { s with wire := s.wire.tail })
  | wake => (wake, s)

/-- An operation on the map or on a channel. -/
def State.upon {α : Type} (s : State) (result : α × Registry String) : α × State :=
  (result.1, { s with registry := result.2 })

/-- Carry out an operation. -/
def exec (capacity : Nat) (e : Supply) : (q : Op) → State → q.Result × State
  | .pgNotify payload, s => pgNotify e payload s
  | .listen, s => listen e s
  | .select, s => select e s
  | .entry key, s => s.upon (s.registry.getOrInsert key)
  | .get key, s => (s.registry.get? key, s)
  | .retain, s => s.upon ((), s.registry.retain)
  | .subscribe chan, s => s.upon (s.registry.subscribe chan)
  | .dropSender id, s => s.upon ((), s.registry.dropClone id)
  | .send chan, s => s.upon ((), s.registry.send chan)
  | .recv rx, s => s.upon (s.registry.recv capacity rx)
  | .dropReceiver rx, s => s.upon ((), s.registry.dropReceiver rx)

theorem pgNotify_registry (e : Supply) (payload : String) (s : State) :
    (pgNotify e payload s).2.registry = s.registry := by
  unfold pgNotify
  split <;> rfl

theorem listen_registry (e : Supply) (s : State) : (listen e s).2.registry = s.registry := by
  unfold listen
  split <;> rfl

theorem select_registry (e : Supply) (s : State) : (select e s).2.registry = s.registry := by
  unfold select
  split <;> rfl

/-- A notification is the next one on the way. -/
def Wake.Possible (wire : List String) : Wake → Prop
  | .notification payload => wire.head? = some payload
  | _ => True

instance (wire : List String) : (wake : Wake) → Decidable (wake.Possible wire)
  | .notification payload => inferInstanceAs (Decidable (wire.head? = some payload))
  | .shutdown => .isTrue trivial
  | .tick => .isTrue trivial
  | .error => .isTrue trivial

/-- A receiver is read when that does not block. -/
def CanRun (e : Supply) : Op → State → Prop
  | .select, s => e.wake.Possible s.wire
  | .recv rx, s => s.registry.Readable rx
  | _, _ => True

instance (e : Supply) (q : Op) (s : State) : Decidable (CanRun e q s) := by
  apply Op.casesOn (motive := fun q => Decidable (CanRun e q s)) q
  case select => exact inferInstanceAs (Decidable (e.wake.Possible s.wire))
  case recv => exact fun rx => inferInstanceAs (Decidable (s.registry.Readable rx))
  all_goals
    intros
    exact .isTrue trivial

/-! ## The functions -/

abbrev Code (α : Type) := Prog Op Op.Result QueueError α

/-- One operation. -/
def op (q : Op) : Code q.Result := .query q

/-- `queue_key`. -/
def queueKey (ns taskQueue : String) : String := ns ++ ":" ++ taskQueue

/-- `get_or_create_channel`. -/
def getOrCreateChannel (key : String) : Code (Clone String) := op (.entry key)

/-- `cleanup_stale_channels`. -/
def cleanupStaleChannels : Code Unit := op .retain

/-- `if let Some(tx) = self.channels.get(key)`: send to it. -/
def deliver (key : String) : Code Unit := do
  match ← op (.get key) with
  | some tx => op (.send tx)
  | none => pure ()

/-- `?` on an answer of the database. -/
def orError : Except QueueError Unit → Code Unit := .ofExcept

/-- `notify`. -/
def notify (ns taskQueue : String) : Code Unit := do
  orError (← op (.pgNotify (queueKey ns taskQueue)))
  deliver (queueKey ns taskQueue)

/-- `subscribe`.  The clone of the sender is dropped at its end. -/
def subscribe (ns taskQueue : String) : Code Nat := do
  let tx ← getOrCreateChannel (queueKey ns taskQueue)
  let rx ← op (.subscribe tx.chan)
  op (.dropSender tx.id)
  pure rx

/-- The loop of `start`, for a number of rounds.  Of `reconnect_listener` it has the last
attempt. -/
def listenLoop : Nat → Code Unit
  | 0 => pure ()
  | rounds + 1 => do
      match ← op .select with
      | .shutdown => pure ()
      | .tick => do
          cleanupStaleChannels
          listenLoop rounds
      | .notification payload => do
          deliver payload
          listenLoop rounds
      | .error => do
          orError (← op .listen)
          listenLoop rounds

/-- `start`. -/
def start (rounds : Nat) : Code Unit := do
  orError (← op .listen)
  listenLoop rounds

/-! ## The calls -/

/-- A call of the notifier, or what happens to a receiver or comes from another server. -/
inductive Call where
  | notify (ns taskQueue : String)
  | subscribe (ns taskQueue : String)
  | start (rounds : Nat)
  /-- `cleanup_stale_channels`, alone. -/
  | cleanup
  | recv (rx : Nat)
  | dropReceiver (rx : Nat)
  /-- Another server notifies. -/
  | remote (ns taskQueue : String)
deriving DecidableEq

inductive Answer where
  | done
  | receiver (rx : Nat)
  | received (r : Received)
deriving DecidableEq

/-- The program of a call. -/
def handle : Call → Code Answer
  | .notify ns taskQueue => do
      notify ns taskQueue
      pure .done
  | .subscribe ns taskQueue => do
      let rx ← subscribe ns taskQueue
      pure (.receiver rx)
  | .start rounds => do
      start rounds
      pure .done
  | .cleanup => do
      cleanupStaleChannels
      pure .done
  | .recv rx => do
      let r ← op (.recv rx)
      pure (.received r)
  | .dropReceiver rx => do
      op (.dropReceiver rx)
      pure .done
  | .remote ns taskQueue => do
      orError (← op (.pgNotify (queueKey ns taskQueue)))
      pure .done

/-- The notifier, with channels that keep `capacity` messages. -/
def service (capacity : Nat) : Service Op Op.Result State Supply Call QueueError Answer where
  exec := exec capacity
  admits _ e q m := CanRun e q m.store
  spawn := handle
  accepts _ := True

instance (capacity : Nat) : DecidablePred (service capacity).accepts := fun _ => .isTrue trivial

instance (capacity i : Nat) (e : Supply) (q : Op) (m : Moment Op Op.Result State Supply) :
    Decidable ((service capacity).admits i e q m) :=
  inferInstanceAs (Decidable (CanRun e q m.store))

/-- A state of the notifier. -/
abbrev NotifierState := Pool Op Op.Result State Supply Call QueueError Answer

/-- Nobody has subscribed. -/
def State.empty : State := ⟨.empty, []⟩

end Queue

end Kagzi
