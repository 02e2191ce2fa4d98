import Mathlib.Algebra.Ring.Int.Defs
import Mathlib.Algebra.Ring.Nat
import Mathlib.Data.Rat.Defs
import Kagzi.Logic.Rounding
import Kagzi.Logic.Table

/-!
# The data model

The rows of the five tables of the schema, with the columns the store's
functions read or write.  The constraints of `schema.sql` are the `Row`
instances: the primary keys and the partial unique indexes are clashes, the
check `chk_available_at` is validity.  A null never clashes in a unique index.

A time is a number of microseconds since the epoch, the resolution of a
`timestamptz`, and a duration is one of microseconds.  A `Uuid` is a number.
-/

namespace Kagzi

open Relational

/-! ## Scalars -/

/-- An identifier of a run, a step attempt or a worker. -/
abbrev Uuid := Nat

/-- A payload. -/
abbrev Bytes := List UInt8

/-- `$n * interval`, for an interval of `unit` microseconds.  `$n` is bound as an `f64`, and
PostgreSQL multiplies an interval by a double: the factor and the product are rounded. -/
def interval (unit n : Int) : Int :=
  Rounding.nearestInt 53 (Rounding.nearestInt 53 n * unit)

/-- `$n * INTERVAL '1 second'`. -/
def seconds (n : Int) : Int := interval 1000000 n

/-- `$n * INTERVAL '1 millisecond'`. -/
def milliseconds (n : Int) : Int := interval 1000 n

/-- An interval is exact as long as a double holds it. -/
theorem interval_exact {u n : Int} {k : Nat} (hn : n.natAbs < 2 ^ 53)
    (h : (n * u).natAbs < 2 ^ 53) : interval (u * 2 ^ k) n = n * (u * 2 ^ k) := by
  rw [interval, Rounding.nearestInt_of_lt hn, ← Int.mul_assoc,
    Rounding.nearestInt_mul_two_pow h]

/-- A million is `15625 * 2 ^ 6`. -/
theorem seconds_exact {n : Int} (h : 0 ≤ n) (h' : n ≤ 576460752303) :
    seconds n = n * 1000000 :=
  interval_exact (k := 6) (u := 15625) (by omega) (by omega)

/-- A thousand is `125 * 2 ^ 3`. -/
theorem milliseconds_exact {n : Int} (h : 0 ≤ n) (h' : n ≤ 72057594037927) :
    milliseconds n = n * 1000 :=
  interval_exact (k := 3) (u := 125) (by omega) (by omega)

/-- A product that is not below zero is not rounded below it. -/
theorem interval_nonneg {unit n : Int} (hunit : 0 ≤ unit) (h : 0 ≤ n) : 0 ≤ interval unit n :=
  Rounding.nearestInt_nonneg (Int.mul_nonneg (Rounding.nearestInt_nonneg h) hunit)

theorem seconds_nonneg {n : Int} (h : 0 ≤ n) : 0 ≤ seconds n := interval_nonneg (by decide) h

/-- `chrono::Duration::days`. -/
def days (n : Int) : Int := n * 86400000000

/-- The microseconds of a number of milliseconds, as `chrono` counts them. -/
def ofMillis (ms : Int) : Int := ms * 1000

/-- The first instant a `timestamptz` cannot hold. -/
def timestampEnd : Int := 9224318016000000000

/-- `x as u64` for a signed 64-bit `x`. -/
def asU64 (x : Int) : Nat := (x % 2 ^ 64).toNat

/-- `x as i64` for an unsigned `x`. -/
def asI64 (x : Nat) : Int := if x % 2 ^ 64 < 2 ^ 63 then x % 2 ^ 64 else x % 2 ^ 64 - 2 ^ 64

/-- `x as usize` for a signed 32-bit `x`. -/
def asUsize (x : Int) : Nat := asU64 x

/-- The cast keeps the values of an `i32` that are not negative. -/
theorem asUsize_of_nonneg {x : Int} (h : 0 ≤ x) (h' : x < 2 ^ 31) : (asUsize x : Int) = x := by
  unfold asUsize asU64
  omega

/-! ## Statuses -/

inductive WorkflowStatus where
  | pending
  | running
  | sleeping
  | completed
  | failed
  | cancelled
  | scheduled
  | paused
deriving DecidableEq, Repr

def WorkflowStatus.isTerminal : WorkflowStatus → Bool
  | .completed => true
  | .failed => true
  | .cancelled => true
  | _ => false

/-- `status IN ('PENDING', 'SLEEPING', 'RUNNING')`. -/
def WorkflowStatus.isClaimable : WorkflowStatus → Bool
  | .pending => true
  | .running => true
  | .sleeping => true
  | _ => false

def WorkflowStatus.isScheduleTemplate : WorkflowStatus → Bool
  | .scheduled => true
  | .paused => true
  | _ => false

theorem WorkflowStatus.template_not_claimable {status : WorkflowStatus}
    (h : status.isScheduleTemplate = true) : status.isClaimable = false := by
  cases status with
  | scheduled => rfl
  | paused => rfl
  | _ => cases h

/-- The `{:?}` text of a status. -/
def WorkflowStatus.debug : WorkflowStatus → String
  | .pending => "Pending"
  | .running => "Running"
  | .sleeping => "Sleeping"
  | .completed => "Completed"
  | .failed => "Failed"
  | .cancelled => "Cancelled"
  | .scheduled => "Scheduled"
  | .paused => "Paused"

inductive StepStatus where
  | pending
  | running
  | completed
  | failed
deriving DecidableEq, Repr

inductive StepKind where
  | function
  | sleep
  | workflowStarted
  | workflowCompleted
  | workflowFailed
  | workflowCancelled
deriving DecidableEq, Repr

/-- `step_kind.as_ref().to_lowercase()`. -/
def StepKind.lowercase : StepKind → String
  | .function => "function"
  | .sleep => "sleep"
  | .workflowStarted => "workflow_started"
  | .workflowCompleted => "workflow_completed"
  | .workflowFailed => "workflow_failed"
  | .workflowCancelled => "workflow_cancelled"

inductive WorkerStatus where
  | online
  | draining
  | offline
deriving DecidableEq, Repr

/-! ## Retry policies -/

/-- An `f64`. -/
inductive F64 where
  | finite (x : Rat)
  | infinite (negative : Bool)
  | nan
deriving DecidableEq

/-- `self < x`.  Nothing is below or above a NaN. -/
def F64.isBelow (x : Rat) : F64 → Bool
  | .finite y => y < x
  | .infinite negative => negative
  | .nan => false

def F64.isFinite : F64 → Bool
  | .finite _ => true
  | .infinite _ => false
  | .nan => false

/-- The JSON of a number: null, when it is none. -/
def F64.toValue : F64 → Option Rat
  | .finite x => some x
  | .infinite _ => none
  | .nan => none

/-- A number is what it was before it was stored exactly if it is one. -/
theorem F64.map_toValue_iff {x : F64} :
    x.toValue.map F64.finite = some x ↔ x.isFinite = true := by
  cases x <;> simp [toValue, isFinite]

/-- A retry policy with a coefficient of the type `C`. -/
structure PolicyOf (C : Type) where
  maximumAttempts : Int
  initialIntervalMs : Int
  backoffCoefficient : C
  maximumIntervalMs : Int
  nonRetryableErrors : List String
deriving DecidableEq

/-- The policy with another coefficient. -/
def PolicyOf.withCoefficient {C D : Type} (p : PolicyOf C) (c : D) : PolicyOf D :=
  { maximumAttempts := p.maximumAttempts
    initialIntervalMs := p.initialIntervalMs
    backoffCoefficient := c
    maximumIntervalMs := p.maximumIntervalMs
    nonRetryableErrors := p.nonRetryableErrors }

/-- A policy on its way to the database: that of a message, or what it is merged to. -/
abbrev ProtoPolicy := PolicyOf F64

/-- A policy in a column, as JSON. -/
abbrev StoredPolicy := PolicyOf (Option Rat)

instance : DecidableEq StoredPolicy := inferInstanceAs (DecidableEq (PolicyOf (Option Rat)))

/-- A policy that was read from the database, or the default. -/
abbrev RetryPolicy := PolicyOf Rat

/-- `serde_json::to_value`. -/
def ProtoPolicy.toValue (p : ProtoPolicy) : StoredPolicy :=
  p.withCoefficient p.backoffCoefficient.toValue

/-- `serde_json::from_value(v).ok()`: a null is no number, and the policy is not read at
all.  A coefficient of many digits can be read as the double next to it, which is left out:
no delay depends on it. -/
def StoredPolicy.fromValue (p : StoredPolicy) : Option RetryPolicy :=
  p.backoffCoefficient.map p.withCoefficient

/-- What is read of a column. -/
def readPolicy (column : Option StoredPolicy) : Option RetryPolicy :=
  column.bind StoredPolicy.fromValue

namespace RetryPolicy

/-- The policy, to be merged with that of a message. -/
def toProto (p : RetryPolicy) : ProtoPolicy := p.withCoefficient (.finite p.backoffCoefficient)

/-- `RetryPolicy::default`. -/
def default : RetryPolicy :=
  { maximumAttempts := 5
    initialIntervalMs := 1000
    backoffCoefficient := 2
    maximumIntervalMs := 60000
    nonRetryableErrors := [] }

/-- The delay after `delay`: doubled, and clamped to the maximum. -/
def nextDelay (max delay : Nat) : Nat := if delay < max then Nat.min (delay * 2) max else max

/-- The delays of `backon`'s `ExponentialBuilder` with the given bounds and no
jitter.  The first is `min`, and the default `max_times` ends the iterator
after three. -/
def exponential (min max : Nat) : Nat → Option Nat
  | 0 => some min
  | 1 => some (nextDelay max min)
  | 2 => some (nextDelay max (nextDelay max min))
  | _ => none

/-- Jitter adds an amount in `[0, delay)`, drawn by `rand`. -/
def withJitter (rand delay : Nat) : Nat :=
  if delay = 0 then 0 else delay + rand % delay

/-- `calculate_delay_ms`.  The attempt counts from one, and an exhausted
iterator gives the maximum interval. -/
def calculateDelayMs (policy : RetryPolicy) (attempt : Int) (rand : Nat) : Int :=
  let min := asU64 policy.initialIntervalMs
  let max := asU64 policy.maximumIntervalMs
  match exponential min max (attempt - 1).toNat with
  | some delay => asI64 (withJitter rand delay)
  | none => asI64 max

def isNonRetryable (policy : RetryPolicy) (error : String) : Bool :=
  policy.nonRetryableErrors.any fun e => e.toList.isPrefixOf error.toList

def shouldRetry (policy : RetryPolicy) (currentAttempt : Int) : Bool :=
  policy.maximumAttempts < 0 || currentAttempt < policy.maximumAttempts

end RetryPolicy

/-! ## Rows -/

/-- A row of `namespaces`. -/
structure NamespaceRow where
  name : String
  enabled : Bool
  updatedAt : Int
deriving DecidableEq

/-- A row of `workflow_runs`.  `ns` is the namespace.  A schedule template is a
row with `cronExpr` set, and `scheduleId` names the template an instance was
created for. -/
structure RunRow where
  runId : Uuid
  ns : String
  externalId : String
  taskQueue : String
  workflowType : String
  status : WorkflowStatus
  lockedBy : Option String
  attempts : Int
  createdAt : Option Int
  startedAt : Option Int
  finishedAt : Option Int
  retryPolicy : Option StoredPolicy
  version : Option String
  error : Option String
  availableAt : Option Int
  cronExpr : Option String
  scheduleId : Option Uuid
  lastFiredAt : Option Int
  maxCatchup : Int
deriving DecidableEq

/-- A row of `workflow_payloads`. -/
structure PayloadRow where
  runId : Uuid
  input : Bytes
  output : Option Bytes
deriving DecidableEq

/-- A row of `step_runs`: one attempt of a step. -/
structure StepRow where
  attemptId : Uuid
  runId : Uuid
  stepId : String
  ns : String
  status : StepStatus
  output : Option Bytes
  error : Option String
  createdAt : Option Int
  startedAt : Option Int
  finishedAt : Option Int
  retryPolicy : Option StoredPolicy
  attemptNumber : Int
  isLatest : Bool
  input : Option Bytes
  stepKind : StepKind
deriving DecidableEq

/-- A row of `workers`. -/
structure WorkerRow where
  workerId : Uuid
  ns : String
  taskQueue : String
  hostname : Option String
  pid : Option Int
  version : Option String
  workflowTypes : List String
  status : WorkerStatus
  registeredAt : Int
  lastHeartbeatAt : Int
  deregisteredAt : Option Int
deriving DecidableEq

/-! ## Constraints -/

/-- Two values a unique index takes for equal. -/
def SameKey {α : Type} (a b : Option α) : Prop := a.isSome ∧ a = b

instance {α : Type} [DecidableEq α] (a b : Option α) : Decidable (SameKey a b) :=
  inferInstanceAs (Decidable (_ ∧ _))

theorem SameKey.symm {α : Type} {a b : Option α} (h : SameKey a b) : SameKey b a :=
  ⟨h.2 ▸ h.1, h.2.symm⟩

instance : Keyed NamespaceRow String where
  Clash r r' := r.name = r'.name
  Valid _ := True
  clash_symm := Eq.symm
  decClash := fun _ _ => inferInstance
  decValid := fun _ => inferInstance
  key := NamespaceRow.name
  clash_of_key := id

/-- `workflow_runs_pkey`, `idx_schedule_firing_unique` and
`uq_active_workflow`. -/
def RunRow.Clash (r r' : RunRow) : Prop :=
  r.runId = r'.runId ∨
  (SameKey r.scheduleId r'.scheduleId ∧ SameKey r.availableAt r'.availableAt) ∨
  (r.status.isTerminal = false ∧ r'.status.isTerminal = false ∧
    r.ns = r'.ns ∧ r.externalId = r'.externalId)

instance : DecidableRel RunRow.Clash := fun _ _ => inferInstanceAs (Decidable (_ ∨ _ ∨ _))

/-- `chk_available_at`, and the range of the column's type. -/
def RunRow.Valid (r : RunRow) : Prop :=
  (r.status.isTerminal = true ∨ r.availableAt.isSome = true) ∧
  ∀ t ∈ r.availableAt, t < timestampEnd

instance : DecidablePred RunRow.Valid := fun r =>
  match h : r.availableAt with
  | none => decidable_of_iff (r.status.isTerminal = true) (by simp [RunRow.Valid, h])
  | some t => decidable_of_iff (t < timestampEnd) (by simp [RunRow.Valid, h])

instance : Keyed RunRow Uuid where
  Clash := RunRow.Clash
  Valid := RunRow.Valid
  clash_symm := by
    rintro r r' (h | ⟨h, h'⟩ | ⟨h1, h2, h3, h4⟩)
    · exact .inl h.symm
    · exact .inr (.inl ⟨h.symm, h'.symm⟩)
    · exact .inr (.inr ⟨h2, h1, h3.symm, h4.symm⟩)
  decClash := inferInstance
  decValid := inferInstance
  key := RunRow.runId
  clash_of_key := .inl

instance : Keyed PayloadRow Uuid where
  Clash r r' := r.runId = r'.runId
  Valid _ := True
  clash_symm := Eq.symm
  decClash := fun _ _ => inferInstance
  decValid := fun _ => inferInstance
  key := PayloadRow.runId
  clash_of_key := id

/-- `step_runs_pkey` and `idx_step_runs_latest`. -/
def StepRow.Clash (r r' : StepRow) : Prop :=
  r.attemptId = r'.attemptId ∨
  (r.isLatest = true ∧ r'.isLatest = true ∧ r.runId = r'.runId ∧ r.stepId = r'.stepId)

instance : DecidableRel StepRow.Clash := fun _ _ => inferInstanceAs (Decidable (_ ∨ _))

instance : Keyed StepRow Uuid where
  Clash := StepRow.Clash
  Valid _ := True
  clash_symm := by
    rintro r r' (h | ⟨h1, h2, h3, h4⟩)
    · exact .inl h.symm
    · exact .inr ⟨h2, h1, h3.symm, h4.symm⟩
  decClash := inferInstance
  decValid := fun _ => inferInstance
  key := StepRow.attemptId
  clash_of_key := .inl

/-- `workers_pkey` and `idx_workers_active_unique`. -/
def WorkerRow.Clash (r r' : WorkerRow) : Prop :=
  r.workerId = r'.workerId ∨
  (r.status ≠ .offline ∧ r'.status ≠ .offline ∧ r.ns = r'.ns ∧ r.taskQueue = r'.taskQueue ∧
    SameKey r.hostname r'.hostname ∧ SameKey r.pid r'.pid)

instance : DecidableRel WorkerRow.Clash := fun _ _ => inferInstanceAs (Decidable (_ ∨ _))

instance : Keyed WorkerRow Uuid where
  Clash := WorkerRow.Clash
  Valid _ := True
  clash_symm := by
    rintro r r' (h | ⟨h1, h2, h3, h4, h5, h6⟩)
    · exact .inl h.symm
    · exact .inr ⟨h2, h1, h3.symm, h4.symm, h5.symm, h6.symm⟩
  decClash := inferInstance
  decValid := fun _ => inferInstance
  key := WorkerRow.workerId
  clash_of_key := .inl

/-! ## The database -/

/-- The five tables. -/
structure Db where
  namespaces : Table NamespaceRow
  runs : Table RunRow
  payloads : Table PayloadRow
  steps : Table StepRow
  workers : Table WorkerRow

/-- The database before any request. -/
def Db.empty : Db := ⟨.empty, .empty, .empty, .empty, .empty⟩

/-- The row of a run. -/
def Db.run (db : Db) (runId : Uuid) : Option RunRow := db.runs.get? runId

/-- The latest attempt of a step. -/
def Db.latest (db : Db) (runId : Uuid) (stepId : String) : Option StepRow :=
  db.steps.rows.find? fun r => r.runId = runId && r.stepId = stepId && r.isLatest

/-! ## Errors of the store -/

/-- `StoreError`. -/
inductive StoreError where
  | database
  | conflict (message : String)
  | invalidArgument (message : String)
  | notFound (entity id : String)
  | invalidState (message : String)
  | alreadyCompleted (message : String)
  | serialization
  | lockConflict (message : String)
  | preconditionFailed (message : String)
  | unauthorized (message : String)
  | unavailable (message : String)
  | timeout (message : String)
deriving DecidableEq, Repr

/-- A violation of a unique index is a conflict. -/
def StoreError.isUniqueViolation : StoreError → Bool
  | .conflict _ => true
  | _ => false

/-! ## What a statement gets from its surroundings -/

/-- What the moment of its execution supplies to a statement. -/
structure Env where
  /-- The clock: `NOW()` in a statement of its own, `Utc::now()` in the server. -/
  now : Int
  /-- `NOW()` in a transaction of several statements: the time of its `BEGIN`. -/
  began : Int
  /-- A new identifier: `Uuid::now_v7()` or `gen_random_uuid()`. -/
  fresh : Uuid
  /-- The runs whose rows other transactions hold locked at this moment, which
  `SKIP LOCKED` passes over. -/
  locked : List Uuid
  /-- A random number: jitter, and whether the rate limiter refuses. -/
  rand : Nat
  /-- The statement fails for a reason outside the program. -/
  fault : Bool
deriving DecidableEq

/-- A statement: atomic, and without effect when it fails. -/
abbrev Sql (α : Type) := Env → Db → Except StoreError α × Db

end Kagzi
