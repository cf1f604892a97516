/-
The gateway issues attestation challenges (`gateway/internal/attestation`: `challenge.go` and
`Issue` of `service.go`).

A challenge travels as a signed CBOR map.  The map, the additional data of its signature and the
checks on both are here; the octets they are written in, and the signature, are a parameter
(`Envelope`).  Each attempt of `Issue` ends in one transaction, whose answer is a parameter too,
since other connections may run between the attempts.

* `issue_ok` — what a challenge that was issued holds.
-/
import Pbns.Challenges
import Pbns.FrameTypes

namespace Pbns.Attestation

open Octets Model Guard

/-! ### Challenges -/

inductive Error
  | invalid
  | challenge
  | decryption
  | authentication
  | context
  | verification
  /-- an error of the store, passed on -/
  | store (error : Store.Error)
  deriving DecidableEq

def domain : String := "PBNS-ATTESTATION-v1"
def serviceAttestation : ℕ := 3
def challengeAADDomain : String := "PBNS-ATTESTATION-CHALLENGE-SIGN-v1"

/-- Ten minutes, in nanoseconds. -/
def maxChallengeLifetime : Int := 10 * 60 * 1000000000

def defaultSelection : PCRSelection := [⟨0x000b, [0, 2, 4, 7]⟩]

structure Context where
  domain : String
  version : ℕ
  service : ℕ
  requestID : Identifier16
  hostFingerprint : Digest32
  nonce : Digest32
  issuedAtUnixNS : ℕ
  expiresAtUnixNS : ℕ
  body : Octets
  deriving DecidableEq

structure Challenge where
  context : Context
  verifierNonce : Digest32
  selection : PCRSelection
  recipientKID : Octets
  expiresAtUnixNS : Int
  deriving DecidableEq

def validContext (context : Context) : Bool :=
  context.domain = domain && context.version = 1 && context.service = serviceAttestation &&
    !isZero context.requestID && !isZero context.hostFingerprint && !isZero context.nonce &&
    decide (0 < context.issuedAtUnixNS) &&
    decide (context.issuedAtUnixNS < context.expiresAtUnixNS) && context.body.length = 0

def validChallenge (challenge : Challenge) : Bool :=
  validContext challenge.context && challenge.context.nonce = challenge.verifierNonce &&
    decide (0 < challenge.expiresAtUnixNS) &&
    challenge.expiresAtUnixNS = challenge.context.expiresAtUnixNS && challenge.selection.valid &&
    decide (0 < challenge.recipientKID.length) && decide (challenge.recipientKID.length ≤ 64)

/-! ### On the wire -/

/-- The CBOR map of a challenge, as both programs see it: labels 1 to 9 are inside the map with
label 1, labels 10 to 13 beside it. -/
structure ChallengeMap where
  domain : String
  version : ℕ
  service : ℕ
  requestId : Octets
  hostFingerprint : Octets
  nonce : Octets
  issuedAt : ℕ
  expiresAt : ℕ
  body : Octets
  verifierNonce : Octets
  selection : List PCRBank
  recipientKid : Octets
  expiry : ℕ
  deriving DecidableEq

/-- The map `Marshal` writes; a valid challenge has no negative number. -/
def Challenge.map (challenge : Challenge) : ChallengeMap :=
  ⟨challenge.context.domain, challenge.context.version, challenge.context.service,
    challenge.context.requestID.toList, challenge.context.hostFingerprint.toList,
    challenge.context.nonce.toList, challenge.context.issuedAtUnixNS,
    challenge.context.expiresAtUnixNS, challenge.context.body, challenge.verifierNonce.toList,
    challenge.selection, challenge.recipientKID, challenge.expiresAtUnixNS.toNat⟩

/-- The array that is the additional data of a challenge's signature. -/
structure ChallengeAAD where
  domain : String
  version : ℕ
  service : ℕ
  requestId : Identifier16
  hostFingerprint : Digest32
  verifierNonce : Digest32
  recipientKid : Octets
  deriving DecidableEq

/-- The libraries behind a signed challenge: `π` are payloads and `σ` signed messages. -/
structure Envelope (σ π : Type) where
  /-- the canonical CBOR of a map -/
  write : ChallengeMap → π
  read : π → Option ChallengeMap
  size : π → ℕ
  /-- the signature of the gateway -/
  sign : ChallengeAAD → π → Option σ
  signedSize : σ → ℕ
  /-- the message is a canonical COSE_Sign1 with this key identifier -/
  profileValid : σ → Octets → Bool
  verify : σ → ChallengeAAD → Octets → Except Status π

/-- What the libraries promise: a map is read back as it was written, and a message that verifies
carries the payload that was signed. -/
structure Envelope.Documented {σ π : Type} (envelope : Envelope σ π) : Prop where
  read_write : ∀ map, envelope.read (envelope.write map) = some map
  verify_sign : ∀ {aad aad' payload payload' kid signed},
    envelope.sign aad payload = some signed → envelope.verify signed aad' kid = .ok payload' →
    payload' = payload

def challengeAAD (requestID : Identifier16) (host nonce : Digest32) (kid : Octets) : ChallengeAAD :=
  ⟨challengeAADDomain, 1, serviceAttestation, requestID, host, nonce, kid⟩

def signChallenge {σ π : Type} (envelope : Envelope σ π) (challenge : Challenge) :
    Except Error σ :=
  orReject .authentication (envelope.sign
    (challengeAAD challenge.context.requestID challenge.context.hostFingerprint
      challenge.verifierNonce challenge.recipientKID)
    (envelope.write challenge.map))

/-! ### Issue -/

/-- What `NewService` accepts; the selection has to be the default one. -/
structure Service where
  recipientKID : Octets
  ttl : Int
  recipientKID_size : 0 < recipientKID.length ∧ recipientKID.length ≤ 64
  ttl_bounds : 0 < ttl ∧ ttl ≤ maxChallengeLifetime

/-- The draws of `Issue`, by attempt; a read of the random source may fail. -/
structure Draws where
  requestID : ℕ → Option Identifier16
  nonce : ℕ → Option Digest32

def randomArray {n : ℕ} : Option (OctetArray n) → Except Error (OctetArray n)
  | some value => if isZero value = true then .error .invalid else .ok value
  | none => .error .invalid

def random16 : Option Identifier16 → Except Error Identifier16 := randomArray

def random32 : Option Digest32 → Except Error Digest32 := randomArray

structure IssuedChallenge (σ : Type) where
  requestID : Identifier16
  signed : σ
  expiresAt : Time

section Issue

variable {σ π : Type} (envelope : Envelope σ π) (service : Service)

/-- The challenge for one pair of draws. -/
def newChallenge (hostFingerprint : Digest32) (now : Time) (requestID : Identifier16)
    (nonce : Digest32) : Challenge :=
  ⟨⟨domain, 1, serviceAttestation, requestID, hostFingerprint, nonce, (Time.unixNano now).toNat,
      (Time.unixNano (now + service.ttl)).toNat, []⟩, nonce, defaultSelection,
    service.recipientKID, Time.unixNano (now + service.ttl)⟩

/-- What `Issue` stores of it. -/
def storedChallenge (hostFingerprint : Digest32) (now : Time) (requestID : Identifier16)
    (nonce : Digest32) : Store.AttestationChallenge :=
  ⟨requestID, hostFingerprint, nonce, defaultSelection, service.recipientKID, Time.unixNano now,
    Time.unixNano (now + service.ttl), .unset, .unset⟩

/-- The part of an attempt before its transaction. -/
def prepareChallenge (hostFingerprint : Digest32) (now : Time) (draws : Draws) (attempt : ℕ) :
    Except Error (Identifier16 × Digest32 × σ) := do
  let requestID ← random16 (draws.requestID attempt)
  let nonce ← random32 (draws.nonce attempt)
  let challenge := newChallenge service hostFingerprint now requestID nonce
  rejectIf (validChallenge challenge = false) .invalid
  let signed ← signChallenge envelope challenge
  .ok (requestID, nonce, signed)

/-- The loop of `Issue`; `create` gives the answer of the transaction of an attempt. -/
def issueLoop (hostFingerprint : Digest32) (now : Time) (draws : Draws)
    (create : ℕ → Store.AttestationChallenge → Except Store.Error Unit) :
    ℕ → ℕ → Except Error (IssuedChallenge σ)
  | 0, _ => .error (.store .challengeExists)
  | attempts + 1, attempt => do
    let (requestID, nonce, signed) ←
      prepareChallenge envelope service hostFingerprint now draws attempt
    match create attempt (storedChallenge service hostFingerprint now requestID nonce) with
    | .error .challengeExists =>
      issueLoop hostFingerprint now draws create attempts (attempt + 1)
    | .error error => .error (.store error)
    | .ok () => .ok ⟨requestID, signed, now + service.ttl⟩

/-- The check of `Issue` on the answer of `GetHost`. -/
def issueHost (sha256 : Octets → Digest32) (hostFingerprint : Digest32) :
    Except Store.Error HostRecord → Except Error Unit
  | .error .notFound => .error .challenge
  | .error error => .error (.store error)
  | .ok host => rejectIf (sha256 host.identityCOSEKey ≠ hostFingerprint) .challenge

/-- The checks of `Issue` in front of its loop. -/
def issueChecks (sha256 : Octets → Digest32) (host : Except Store.Error HostRecord)
    (hostFingerprint : Digest32) (now : Time) : Except Error Unit := do
  rejectIf (isZero hostFingerprint = true) .invalid
  issueHost sha256 hostFingerprint host
  rejectIf (Time.unixNano now ≤ 0) .invalid
  rejectIf (Time.unixNano (now + service.ttl) ≤ Time.unixNano now) .invalid

def issue (sha256 : Octets → Digest32) (host : Except Store.Error HostRecord)
    (hostFingerprint : Digest32) (now : Time) (draws : Draws)
    (create : ℕ → Store.AttestationChallenge → Except Store.Error Unit) :
    Except Error (IssuedChallenge σ) := do
  issueChecks service sha256 host hostFingerprint now
  issueLoop envelope service hostFingerprint now draws create 4 0

end Issue

section Issued

variable {σ π : Type} {envelope : Envelope σ π} {service : Service} {hostFingerprint : Digest32}
  {now : Time} {draws : Draws}
  {create : ℕ → Store.AttestationChallenge → Except Store.Error Unit}

/-- What an attempt that reaches its transaction has signed. -/
theorem prepareChallenge_ok {attempt : ℕ} {requestID : Identifier16} {nonce : Digest32} {signed : σ}
    (h : prepareChallenge envelope service hostFingerprint now draws attempt
      = .ok (requestID, nonce, signed)) :
    validChallenge (newChallenge service hostFingerprint now requestID nonce) = true
      ∧ signChallenge envelope (newChallenge service hostFingerprint now requestID nonce)
        = .ok signed := by
  simp only [prepareChallenge, bind_eq_ok, rejectIf_eq_ok, exists_const, Bool.not_eq_false,
    Except.ok.injEq, Prod.mk.injEq] at h
  obtain ⟨id, -, drawn, -, hvalid, message, hsigned, rfl, rfl, rfl⟩ := h
  exact ⟨hvalid, hsigned⟩

/-- The challenge that is returned is the one whose transaction succeeded. -/
theorem issueLoop_ok {issued : IssuedChallenge σ} : ∀ {attempts attempt : ℕ},
    issueLoop envelope service hostFingerprint now draws create attempts attempt = .ok issued →
    ∃ nonce, validChallenge (newChallenge service hostFingerprint now issued.requestID nonce) = true
      ∧ signChallenge envelope (newChallenge service hostFingerprint now issued.requestID nonce)
        = .ok issued.signed
      ∧ ∃ i, create i (storedChallenge service hostFingerprint now issued.requestID nonce) = .ok ()
  | 0, _, h => absurd h (by simp [issueLoop])
  | attempts + 1, attempt, h => by
    rw [issueLoop] at h
    obtain ⟨⟨requestID, nonce, signed⟩, hprepared, h⟩ := bind_eq_ok.mp h
    simp only at h
    split at h
    · exact issueLoop_ok h
    · simp at h
    · next hcreate =>
      obtain rfl := Except.ok.inj h
      obtain ⟨hvalid, hsigned⟩ := prepareChallenge_ok hprepared
      exact ⟨nonce, hvalid, hsigned, attempt, hcreate⟩

variable {sha256 : Octets → Digest32} {host : Except Store.Error HostRecord}

theorem issueHost_ok {u : Unit} (h : issueHost sha256 hostFingerprint host = .ok u) :
    ∃ record, host = .ok record ∧ sha256 record.identityCOSEKey = hostFingerprint := by
  rw [issueHost.eq_def] at h
  split at h
  · simp at h
  · simp at h
  · next record =>
    rw [rejectIf_eq_ok, not_not] at h
    exact ⟨record, rfl, h⟩

theorem issueChecks_ok (h : issueChecks service sha256 host hostFingerprint now = .ok ()) :
    0 < Time.unixNano now ∧ Time.unixNano now < Time.unixNano (now + service.ttl)
      ∧ ∃ record, host = .ok record ∧ sha256 record.identityCOSEKey = hostFingerprint := by
  rw [issueChecks, rejectIf_bind_eq_ok] at h
  obtain ⟨-, h⟩ := h
  obtain ⟨u, hhost, h⟩ := bind_eq_ok.mp h
  rw [rejectIf_bind_eq_ok, rejectIf_eq_ok] at h
  exact ⟨Int.not_le.mp h.1, Int.not_le.mp h.2, issueHost_ok hhost⟩

/-- **What was issued**: the signed challenge carries the stamped instants, and its record was
created. -/
theorem issue_ok {issued : IssuedChallenge σ}
    (h : issue envelope service sha256 host hostFingerprint now draws create = .ok issued) :
    0 < Time.unixNano now ∧ Time.unixNano now < Time.unixNano (now + service.ttl)
      ∧ ∃ nonce, signChallenge envelope
          (newChallenge service hostFingerprint now issued.requestID nonce) = .ok issued.signed
        ∧ ∃ i, create i (storedChallenge service hostFingerprint now issued.requestID nonce)
          = .ok () := by
  rw [issue] at h
  obtain ⟨u, hchecks, h⟩ := bind_eq_ok.mp h
  obtain ⟨hnow, hexpires, -⟩ := issueChecks_ok hchecks
  obtain ⟨nonce, -, hsigned, hcreated⟩ := issueLoop_ok h
  exact ⟨hnow, hexpires, nonce, hsigned, hcreated⟩

end Issued

end Pbns.Attestation
