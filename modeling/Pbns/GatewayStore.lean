/-
The gateway's database (`gateway/internal/store`, `gateway/internal/model`): the records
of its buckets and the errors of its operations.

A bucket is a partial function.  Records are kept decoded; each operation is one
transaction, and an operation that returns an error outside its transaction's logic
leaves the database as it was.
-/
import Pbns.Bytes
import Mathlib.Logic.Function.Basic

namespace Pbns

open Octets

/-! ### Time -/

/-- An instant, in nanoseconds from the epoch. -/
abbrev Time := Int

/-- `Time.UnixNano`, a 64-bit integer. -/
def Time.unixNano (t : Time) : Int := Int.bmod t (2 ^ 64)

/-- `Time.Unix`, in seconds. -/
def Time.unix (t : Time) : Int := t / 1000000000

/-- The zero instant of the library, at the start of year 1. -/
def Time.zero : Time := -62135596800 * 1000000000

namespace Model

abbrev Digest32 := OctetArray 32
abbrev Identifier16 := OctetArray 16

def isZero {n : ℕ} (value : OctetArray n) : Bool := allZero value.toList

/-- `Assurance`; a text that is none of the three is invalid. -/
inductive Assurance
  | tpmVerified
  | tpmUnverified
  | software
  | other (text : String)
  deriving DecidableEq

def Assurance.valid : Assurance → Bool
  | .other _ => false
  | _ => true

structure HostRecord where
  fingerprint : Digest32
  identityCOSEKey : Octets
  akPublic : Octets
  akName : Octets
  ekPublic : Octets
  ekChainDigest : Digest32
  assurance : Assurance
  baselineID : Digest32
  enrolledAtUnix : Int
  deriving DecidableEq

def maxPublicFieldBytes : ℕ := 65536

/-- `HostRecord.Validate` returns no error. -/
def HostRecord.validate (record : HostRecord) : Bool :=
  if isZero record.fingerprint = true ∨ record.identityCOSEKey.length = 0 ∨
      maxPublicFieldBytes < record.identityCOSEKey.length ∨ record.assurance.valid = false ∨
      isZero record.baselineID = true ∨ record.enrolledAtUnix ≤ 0 ∨
      maxPublicFieldBytes < record.akPublic.length ∨ maxPublicFieldBytes < record.akName.length ∨
      maxPublicFieldBytes < record.ekPublic.length then false
  else
    match record.assurance with
    | .software => record.akPublic.length = 0 ∧ record.akName.length = 0 ∧
        record.ekPublic.length = 0 ∧ isZero record.ekChainDigest = true
    | .tpmUnverified => record.akPublic.length ≠ 0 ∧ record.akName.length ≠ 0 ∧
        record.ekPublic.length ≠ 0
    | .tpmVerified => record.akPublic.length ≠ 0 ∧ record.akName.length ≠ 0 ∧
        record.ekPublic.length ≠ 0 ∧ isZero record.ekChainDigest = false
    | .other _ => false

end Model

namespace Store

open Model

inductive Error
  | argument
  | corrupt
  | notFound
  | tokenCollision
  | tokenInvalid
  | tokenExpired
  | tokenRevoked
  | tokenConsumed
  | transcriptMismatch
  | rateLimited
  | enrollmentComplete
  | hostExists
  | entropy
  | baselineStale
  | baselineRollback
  | challengeExists
  | challengeConsumed
  | challengeExpired
  /-- `baselineupdate.ErrInvalid`, passed on -/
  | proposalInvalid
  /-- `baselineupdate.ErrAuthorization`, passed on -/
  | authorization
  deriving DecidableEq

inductive EnrollmentState
  | live
  | pending
  | consumed
  | revoked
  deriving DecidableEq

structure TokenRecord where
  expiresAtUnixNano : Int
  state : EnrollmentState
  pendingID : Identifier16
  mismatchAttempts : ℕ
  deriving DecidableEq

structure Pending where
  id : Identifier16
  tokenDigest : Digest32
  transcriptDigest : Digest32
  createdAtUnixNano : Int
  completed : Bool
  completedAtUnixNano : Int
  deriving DecidableEq

structure CompletedEnrollmentRecord where
  requestID : Identifier16
  envelopeDigest : Digest32
  receipt : Octets
  deriving DecidableEq

structure Database where
  tokens : Digest32 → Option TokenRecord
  pending : Identifier16 → Option Pending
  hosts : Digest32 → Option HostRecord
  baselines : Digest32 → Option Octets
  receipts : Digest32 → Option Octets
  completedEnrollments : Identifier16 → Option CompletedEnrollmentRecord

/-- The buckets after `initialize`. -/
def Database.empty : Database :=
  ⟨fun _ => none, fun _ => none, fun _ => none, fun _ => none, fun _ => none, fun _ => none⟩

end Store

end Pbns
