import Kagzi.Store.Repository
import Kagzi.Logic.Recurrence

/-!
# Errors, payloads and settings of the server

`helpers.rs`, `config.rs` and the parts of `proto_convert.rs` the handlers use.
`Config` holds the settings of a deployment together with the libraries the
server calls: the `uuid` crate, the `cron` crate and `String::from_utf8`.
-/

namespace Kagzi

open Atomic

/-! ## Errors -/

/-- `tonic::Code`, as far as the server uses it. -/
inductive Code where
  | invalidArgument
  | notFound
  | failedPrecondition
  | aborted
  | unavailable
  | deadlineExceeded
  | permissionDenied
  | internal
deriving DecidableEq, Repr

inductive ErrorCode where
  | unspecified
  | notFound
  | invalidArgument
  | preconditionFailed
  | conflict
  | unauthorized
  | unavailable
  | internal
  | timeout
deriving DecidableEq, Repr

structure ErrorDetail where
  code : ErrorCode
  message : String
  nonRetryable : Bool
  retryAfterMs : Int
  subject : String
  subjectId : String
  metadata : List (String × String)
deriving DecidableEq

/-- A gRPC status with its details. -/
structure Status where
  code : Code
  detail : ErrorDetail
deriving DecidableEq

/-- The message of a status is that of its detail. -/
def Status.message (status : Status) : String := status.detail.message

def errDetail (code : ErrorCode) (message : String) (nonRetryable : Bool) (retryAfterMs : Int)
    (subject subjectId : String) : ErrorDetail :=
  { code := code
    message := message
    nonRetryable := nonRetryable
    retryAfterMs := retryAfterMs
    subject := subject
    subjectId := subjectId
    metadata := [] }

def invalidArgumentError (message : String) : Status :=
  ⟨.invalidArgument, errDetail .invalidArgument message true 0 "" ""⟩

def notFoundError (message subject id : String) : Status :=
  ⟨.notFound, errDetail .notFound message true 0 subject id⟩

def preconditionFailedError (message : String) : Status :=
  ⟨.failedPrecondition, errDetail .preconditionFailed message true 0 "" ""⟩

def conflictError (message : String) : Status :=
  ⟨.aborted, errDetail .conflict message false 0 "" ""⟩

def unavailableError (message : String) : Status :=
  ⟨.unavailable, errDetail .unavailable message false 0 "" ""⟩

def deadlineExceededError (message : String) : Status :=
  ⟨.deadlineExceeded, errDetail .timeout message false 0 "" ""⟩

def permissionDeniedError (message : String) : Status :=
  ⟨.permissionDenied, errDetail .unauthorized message true 0 "" ""⟩

def internalError (message : String) : Status :=
  ⟨.internal, errDetail .internal message true 0 "" ""⟩

/-- `map_store_error`. -/
def mapStoreError : StoreError → Status
  | .notFound entity id => notFoundError (entity ++ " not found") entity id
  | .invalidArgument message => invalidArgumentError message
  | .invalidState message => preconditionFailedError message
  | .alreadyCompleted message => preconditionFailedError message
  | .conflict message => conflictError message
  | .lockConflict message => conflictError message
  | .preconditionFailed message => preconditionFailedError message
  | .unauthorized message => permissionDeniedError message
  | .unavailable message => unavailableError message
  | .timeout message => deadlineExceededError message
  | .database => internalError "Database error"
  | .serialization => internalError "Serialization error"

/-! ## Handlers -/

/-- A request handler, or a part of one. -/
abbrev Rpc (α : Type) := Prog Stmt Stmt.Result Status α

/-- Run a function of the store, `.map_err(map_store_error)?`. -/
def call {α : Type} (f : Store α) : Rpc α := f.mapError mapStoreError

/-- Run one statement of the store. -/
def stmt (q : Stmt) : Rpc q.Ans := call (sql q)

/-- `ok_or_else`. -/
def orFail {α : Type} (a : Option α) (status : Status) : Rpc α :=
  match a with
  | some a => .ret a
  | none => .fail status

/-- `require_non_empty`. -/
def requireNonEmpty (value field : String) : Rpc Unit :=
  if value = "" then .fail (invalidArgumentError (field ++ " is required")) else .ret ()

/-! ## Payloads and policies -/

/-- A `Payload` message, without its metadata, which the server drops. -/
abbrev Payload := Bytes

/-- `payload_to_bytes`. -/
def payloadToBytes (payload : Option Payload) : Bytes := payload.getD []

/-- `payload_to_optional_bytes`. -/
def payloadToOptionalBytes (payload : Option Payload) : Option Bytes :=
  payload.filter fun d => !d.isEmpty

/-- `bytes_to_payload`. -/
def bytesToPayload (data : Option Bytes) : Payload := data.getD []

/-- `merge_proto_policy`: a field of the request that is zero or empty is taken
from the fallback. -/
def mergeProtoPolicy (proto : Option ProtoPolicy) (fallback : Option RetryPolicy) :
    Option ProtoPolicy :=
  match proto with
  | none => fallback.map RetryPolicy.toProto
  | some p =>
      let policy := (fallback.getD .default).toProto
      some
        { maximumAttempts :=
            if p.maximumAttempts ≠ 0 then p.maximumAttempts else policy.maximumAttempts
          initialIntervalMs :=
            if p.initialIntervalMs ≠ 0 then p.initialIntervalMs else policy.initialIntervalMs
          backoffCoefficient :=
            if p.backoffCoefficient ≠ .finite 0 then p.backoffCoefficient
            else policy.backoffCoefficient
          maximumIntervalMs :=
            if p.maximumIntervalMs ≠ 0 then p.maximumIntervalMs else policy.maximumIntervalMs
          nonRetryableErrors :=
            if p.nonRetryableErrors.isEmpty then policy.nonRetryableErrors
            else p.nonRetryableErrors }

structure WorkerSettings where
  heartbeatIntervalSecs : Nat
  visibilityTimeoutSecs : Int
  heartbeatExtensionSecs : Int
deriving DecidableEq

structure CoordinatorSettings where
  batchSize : Int
  workerStaleThresholdSecs : Int
  defaultMaxCatchup : Int
deriving DecidableEq

/-- A deployment: its settings and the libraries it runs with. -/
structure Config where
  worker : WorkerSettings
  coordinator : CoordinatorSettings
  /-- `payload_max_size_bytes`. -/
  payloadMaxSizeBytes : Nat
  /-- `Uuid::parse_str`. -/
  parseUuid : String → Option Uuid
  /-- `Uuid::to_string`. -/
  uuidText : Uuid → String
  /-- `cron::Schedule::from_str`.  The error is its text. -/
  cronSchedule : String → Except String Recurrence
  /-- `String::from_utf8`. -/
  utf8 : Bytes → Option String
  /-- `String::into_bytes`. -/
  bytes : String → Bytes

/-- `Uuid::parse_str(...).map_err(...)`. -/
def Config.uuid (cfg : Config) (text message : String) : Rpc Uuid :=
  orFail (cfg.parseUuid text) (invalidArgumentError message)

end Kagzi
