import Kagzi.Sdk.Builder
import Std.Data.ExtHashMap

/-!
# Errors on the wire

`status_with_detail` of the server's `helpers.rs`, and `errors.rs` of the SDK, with what is
between them: a gRPC status whose details are the bytes of an `ErrorDetail`.  The code that
`prost` generates from the proto is a parameter.

A detail comes back as it was sent (`to_detail_round_trip`), so that for a status of the
server `Sdk.KagziError.ofStatus` may go by the detail itself (`fromStatus_toWire`).  A status
without details has no bytes to read.  That is what an empty detail looks like, too, and the
SDK takes it for one (`fromStatus_of_empty`): the code of the status is never looked at
(`never_by_status`).
-/

namespace Kagzi

open Std

/-- `Duration::from_millis`. -/
def Sdk.Duration.fromMillis (ms : Nat) : Duration :=
  ⟨ms / 1000, ms % 1000 * 1000000, by omega⟩

@[simp] theorem Sdk.Duration.asMillis_fromMillis (ms : Nat) : (fromMillis ms).asMillis = ms := by
  simp only [asMillis, asNanos, fromMillis]
  omega

namespace Wire

/-! ## Messages -/

/-- `tonic::Code`. -/
inductive Code where
  | ok
  | cancelled
  | unknown
  | invalidArgument
  | deadlineExceeded
  | notFound
  | alreadyExists
  | permissionDenied
  | resourceExhausted
  | failedPrecondition
  | aborted
  | outOfRange
  | unimplemented
  | internal
  | unavailable
  | dataLoss
  | unauthenticated
deriving DecidableEq, Repr

/-- `code as i32`. -/
def errorCodeAsI32 : ErrorCode → Int32
  | .unspecified => 0
  | .notFound => 1
  | .invalidArgument => 2
  | .preconditionFailed => 3
  | .conflict => 4
  | .unauthorized => 5
  | .unavailable => 6
  | .internal => 7
  | .timeout => 8

/-- `ErrorCode::try_from`. -/
def errorCodeTryFrom (n : Int32) : Option ErrorCode :=
  match n.toInt with
  | 0 => some .unspecified
  | 1 => some .notFound
  | 2 => some .invalidArgument
  | 3 => some .preconditionFailed
  | 4 => some .conflict
  | 5 => some .unauthorized
  | 6 => some .unavailable
  | 7 => some .internal
  | 8 => some .timeout
  | _ => none

@[simp] theorem errorCodeTryFrom_asI32 (code : ErrorCode) :
    errorCodeTryFrom (errorCodeAsI32 code) = some code := by
  cases code <;> rfl

theorem asI32_of_tryFrom {n : Int32} {code : ErrorCode} (h : errorCodeTryFrom n = some code) :
    errorCodeAsI32 code = n := by
  apply Int32.toInt_inj.mp
  unfold errorCodeTryFrom at h
  split at h <;> first | (cases h; simp_all [errorCodeAsI32]) | cases h

/-- `ErrorDetail`. -/
structure ErrorDetail where
  code : Int32
  message : String
  nonRetryable : Bool
  retryAfterMs : Int64
  subject : String
  subjectId : String
  metadata : ExtHashMap String String
deriving DecidableEq

/-- `ErrorDetail::default`. -/
def ErrorDetail.default : ErrorDetail := ⟨0, "", false, 0, "", "", ∅⟩

/-- `encode_to_vec` and `decode` of an `ErrorDetail`. -/
structure Prost where
  encodeToVec : ErrorDetail → Bytes
  decode : Bytes → Option ErrorDetail

/-- In the empty buffer every field is left out, and has its default. -/
def Prost.ReadsEmpty (prost : Prost) : Prop := prost.decode [] = some .default

/-- The detail is read back as it was written. -/
def Prost.ReadsBack (prost : Prost) (detail : ErrorDetail) : Prop :=
  prost.decode (prost.encodeToVec detail) = some detail

/-- `tonic::Status`. -/
structure Status where
  code : Code
  message : String
  details : Bytes
deriving DecidableEq

/-- `status_with_detail`. -/
def statusWithDetail (prost : Prost) (code : Code) (detail : ErrorDetail) : Status :=
  ⟨code, detail.message, prost.encodeToVec detail⟩

/-! ## Errors of the SDK -/

@[ext]
structure KagziError where
  code : ErrorCode
  message : String
  nonRetryable : Bool
  retryAfter : Option Sdk.Duration
  subject : Option String
  subjectId : Option String
  metadata : ExtHashMap String String
deriving DecidableEq

/-- `to_detail`. -/
def KagziError.toDetail (e : KagziError) : ErrorDetail :=
  { code := errorCodeAsI32 e.code
    message := e.message
    nonRetryable := e.nonRetryable
    retryAfterMs := (e.retryAfter.map fun d => Int64.ofNat d.asMillis).getD 0
    subject := e.subject.getD ""
    subjectId := e.subjectId.getD ""
    metadata := e.metadata }

def errorCodeFromStatus : Code → ErrorCode
  | .notFound => .notFound
  | .invalidArgument => .invalidArgument
  | .failedPrecondition => .preconditionFailed
  | .aborted => .conflict
  | .permissionDenied => .unauthorized
  | .unavailable => .unavailable
  | .deadlineExceeded | .cancelled | .resourceExhausted => .unavailable
  | _ => .internal

/-- The codes for which `From<Status>` sets `non_retryable` if there is no detail. -/
def nonRetryable : Code → Bool
  | .invalidArgument | .failedPrecondition | .permissionDenied => true
  | _ => false

/-- A text that is not empty. -/
def nonEmpty (text : String) : Option String := if text = "" then none else some text

/-- `From<Status>`, with the detail that could be read. -/
def KagziError.ofDetail (message : String) (detail : ErrorDetail) : KagziError :=
  { code := (errorCodeTryFrom detail.code).getD .internal
    message := if detail.message = "" then message else detail.message
    nonRetryable := detail.nonRetryable
    retryAfter :=
      if 0 < detail.retryAfterMs then some (.fromMillis detail.retryAfterMs.toUInt64.toNat)
      else none
    subject := nonEmpty detail.subject
    subjectId := nonEmpty detail.subjectId
    metadata := detail.metadata }

/-- `From<Status>`. -/
def KagziError.fromStatus (prost : Prost) (status : Status) : KagziError :=
  match prost.decode status.details with
  | some detail => .ofDetail status.message detail
  | none =>
      { code := errorCodeFromStatus status.code
        message := status.message
        nonRetryable := Wire.nonRetryable status.code
        retryAfter := none
        subject := none
        subjectId := none
        metadata := ∅ }

/-- A detail that can be read decides. -/
theorem fromStatus_of_decode {prost : Prost} {status : Status} {detail : ErrorDetail}
    (h : prost.decode status.details = some detail) :
    KagziError.fromStatus prost status = .ofDetail status.message detail := by
  simp only [KagziError.fromStatus, h]

/-! ## There and back -/

@[simp] theorem getD_nonEmpty (text : String) : (nonEmpty text).getD "" = text := by
  unfold nonEmpty
  split
  · next h => exact h.symm
  · rfl

/-- The milliseconds come back from the duration. -/
theorem ofNat_toUInt64 (ms : Int64) : Int64.ofNat ms.toUInt64.toNat = ms := by
  rw [← UInt64.toInt64_ofNat', UInt64.ofNat_toNat, Int64.toInt64_toUInt64]

/-- What is read from a detail has this detail. -/
theorem toDetail_ofDetail {message : String} {detail : ErrorDetail}
    (hcode : (errorCodeTryFrom detail.code).isSome) (hretry : 0 ≤ detail.retryAfterMs)
    (hmessage : detail.message = "" → message = "") :
    (KagziError.ofDetail message detail).toDetail = detail := by
  obtain ⟨code, hsome⟩ := Option.isSome_iff_exists.mp hcode
  have hafter : ((KagziError.ofDetail message detail).retryAfter.map
      fun d => Int64.ofNat d.asMillis).getD 0 = detail.retryAfterMs := by
    by_cases hpos : 0 < detail.retryAfterMs
    · simp [KagziError.ofDetail, hpos, ofNat_toUInt64]
    · have hzero := Int64.le_antisymm (Int64.not_lt.mp hpos) hretry
      simp [KagziError.ofDetail, hzero]
  have htext : (KagziError.ofDetail message detail).message = detail.message := by
    by_cases hempty : detail.message = ""
    · simp [KagziError.ofDetail, hempty, hmessage hempty]
    · simp [KagziError.ofDetail, hempty]
  unfold KagziError.toDetail
  rw [hafter, htext]
  simp [KagziError.ofDetail, hsome, asI32_of_tryFrom hsome]

/-- A detail with a known code that asks for no negative delay comes back from the SDK as the
server has sent it, whatever the code of its status. -/
theorem to_detail_round_trip (prost : Prost) (code : Code) (detail : ErrorDetail)
    (hprost : prost.ReadsBack detail) (hcode : (errorCodeTryFrom detail.code).isSome)
    (hretry : 0 ≤ detail.retryAfterMs) :
    (KagziError.fromStatus prost (statusWithDetail prost code detail)).toDetail = detail := by
  have hread : prost.decode (statusWithDetail prost code detail).details = some detail := hprost
  rw [fromStatus_of_decode hread]
  exact toDetail_ofDetail hcode hretry id

/-- A detail that is not found, with a delay of a second and a half, and its bytes. -/
def notFoundDetail : ErrorDetail := ⟨1, "", true, 1500, "", "", ∅⟩

def notFoundBytes : Bytes := [8, 1, 24, 1, 32, 220, 11]

/-- `prost` on the empty buffer and on this detail. -/
def prostOnce : Prost where
  encodeToVec _ := notFoundBytes
  decode bytes :=
    if bytes = [] then some .default
    else if bytes = notFoundBytes then some notFoundDetail
    else none

theorem to_detail_round_trip_not_found :
    (KagziError.fromStatus prostOnce (statusWithDetail prostOnce .notFound notFoundDetail)).toDetail =
      notFoundDetail :=
  to_detail_round_trip prostOnce .notFound notFoundDetail rfl rfl (by decide)

/-! ## Statuses of the server -/

section Model

/-- The codes of the server. -/
def codeToWire : Kagzi.Code → Code
  | .invalidArgument => .invalidArgument
  | .notFound => .notFound
  | .failedPrecondition => .failedPrecondition
  | .aborted => .aborted
  | .unavailable => .unavailable
  | .deadlineExceeded => .deadlineExceeded
  | .permissionDenied => .permissionDenied
  | .internal => .internal

def detailToWire (detail : Kagzi.ErrorDetail) : ErrorDetail :=
  { code := errorCodeAsI32 detail.code
    message := detail.message
    nonRetryable := detail.nonRetryable
    retryAfterMs := .ofInt detail.retryAfterMs
    subject := detail.subject
    subjectId := detail.subjectId
    metadata := .ofList detail.metadata }

def statusToWire (prost : Prost) (status : Kagzi.Status) : Status :=
  statusWithDetail prost (codeToWire status.code) (detailToWire status.detail)

def errorToWire (e : Sdk.KagziError) : KagziError :=
  { code := e.code
    message := e.message
    nonRetryable := e.nonRetryable
    retryAfter := e.retryAfter.map .fromMillis
    subject := e.subject
    subjectId := e.subjectId
    metadata := .ofList e.metadata }

/-- A cast does not depend on whether the number has been cut to 64 bits before. -/
theorem ofInt_asI64 (n : Nat) : Int64.ofInt (asI64 n) = Int64.ofNat n := by
  have hmod : asI64 n % 2 ^ 64 = n % 2 ^ 64 := by
    unfold asI64
    omega
  rw [← Int64.ofInt_eq_ofNat, Int64.ofInt_eq_iff_bmod_eq_toInt, Int64.toInt_ofInt]
  calc (asI64 n).bmod (2 ^ 64)
    _ = (asI64 n % 2 ^ 64).bmod (2 ^ 64) := (Int.emod_bmod _ _).symm
    _ = (n % 2 ^ 64 : Int).bmod (2 ^ 64) := by rw [hmod]
    _ = (n : Int).bmod (2 ^ 64) := Int.emod_bmod _ _

/-- A delay that fits is read as it is. -/
theorem toNat_ofInt {ms : Int} (hpos : 0 ≤ ms) (hlt : ms < 2 ^ 63) :
    (Int64.ofInt ms).toUInt64.toNat = asU64 ms := by
  obtain ⟨n, rfl⟩ := Int.eq_ofNat_of_zero_le hpos
  rw [Int64.ofInt_eq_ofNat]
  simp [asU64]
  omega

theorem retryAfter_toWire {message : String} {detail : Kagzi.ErrorDetail}
    (hretry : 0 ≤ detail.retryAfterMs) (hlt : detail.retryAfterMs < 2 ^ 63) :
    (KagziError.ofDetail message (detailToWire detail)).retryAfter =
      (if detail.retryAfterMs > 0 then some (asU64 detail.retryAfterMs) else none).map .fromMillis := by
  have hms : (Int64.ofInt detail.retryAfterMs).toInt = detail.retryAfterMs :=
    Int64.toInt_ofInt_of_le (by omega) hlt
  have hpos : 0 < Int64.ofInt detail.retryAfterMs ↔ 0 < detail.retryAfterMs := by
    rw [Int64.lt_iff_toInt_lt, hms]
    rfl
  simp only [KagziError.ofDetail, detailToWire, hpos, toNat_ofInt hretry hlt, gt_iff_lt]
  split <;> rfl

/-- For a status of the server the SDK goes by the detail that the server has given it. -/
theorem fromStatus_toWire {prost : Prost} {status : Kagzi.Status}
    (hprost : prost.ReadsBack (detailToWire status.detail)) (hretry : 0 ≤ status.detail.retryAfterMs)
    (hlt : status.detail.retryAfterMs < 2 ^ 63) :
    KagziError.fromStatus prost (statusToWire prost status) =
      errorToWire (.ofStatus status) := by
  have hread : prost.decode (statusToWire prost status).details =
      some (detailToWire status.detail) := hprost
  rw [fromStatus_of_decode hread, KagziError.ext_iff]
  refine ⟨?_, rfl, rfl, retryAfter_toWire hretry hlt, rfl, rfl, rfl⟩
  simp [KagziError.ofDetail, detailToWire, errorToWire, Sdk.KagziError.ofStatus]

/-- An error of the SDK has the detail that the SDK sends for it. -/
theorem toDetail_toWire (e : Sdk.KagziError) :
    (errorToWire e).toDetail = detailToWire e.toDetail := by
  have hretry : ((e.retryAfter.map Sdk.Duration.fromMillis).map fun d => Int64.ofNat d.asMillis).getD 0 =
      Int64.ofInt ((e.retryAfter.map asI64).getD 0) := by
    cases e.retryAfter with
    | none => rfl
    | some ms => simp [ofInt_asI64]
  simp only [KagziError.toDetail, errorToWire, hretry, detailToWire, Sdk.KagziError.toDetail]

end Model

/-! ## Statuses without details -/

/-- What is claimed of a status without details: the code and whether to retry are taken from
the code of the status, and the message is that of the status. -/
def ByStatus (prost : Prost) (status : Status) : Prop :=
  (KagziError.fromStatus prost status).code = errorCodeFromStatus status.code ∧
    (KagziError.fromStatus prost status).message = status.message ∧
    ((KagziError.fromStatus prost status).nonRetryable = true ↔
      status.code = .invalidArgument ∨ status.code = .failedPrecondition ∨
        status.code = .permissionDenied)

/-- The empty buffer is read as a detail that says nothing. -/
theorem fromStatus_of_empty {prost : Prost} {status : Status} (hprost : prost.ReadsEmpty)
    (h : status.details = []) :
    KagziError.fromStatus prost status =
      ⟨.unspecified, status.message, false, none, none, none, ∅⟩ := by
  have hread : prost.decode status.details = some .default := by rw [h, hprost]
  rw [fromStatus_of_decode hread]
  rfl

theorem errorCodeFromStatus_ne (code : Code) : errorCodeFromStatus code ≠ .unspecified := by
  cases code <;> simp [errorCodeFromStatus]

/-- No status without details is read by its code. -/
theorem never_by_status (prost : Prost) (hprost : prost.ReadsEmpty) (status : Status)
    (h : status.details = []) : ¬ ByStatus prost status := by
  rintro ⟨hcode, -, -⟩
  rw [fromStatus_of_empty hprost h] at hcode
  exact errorCodeFromStatus_ne status.code hcode.symm

/-- The server rejects a request, and a proxy drops the details. -/
def rejected : Status := ⟨.invalidArgument, "bad request", []⟩

theorem never_by_status_rejected : ¬ ByStatus prostOnce rejected :=
  never_by_status prostOnce rfl rejected rfl

theorem rejection_is_unspecified : ¬ ∀ prost : Prost, prost.ReadsEmpty →
    ∀ status : Status, status.details = [] → ByStatus prost status := by
  intro h
  obtain ⟨hcode, -, -⟩ := h prostOnce rfl rejected rfl
  cases hcode

end Wire

end Kagzi
