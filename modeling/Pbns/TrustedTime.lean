/-
Trusted time: the service that answers a query (`gateway/internal/time/service.go`) and the
client that turns the answer into an interval (`src/core/trusted_time.c`).

Signed messages are opaque; what the gateway read in a request and what the host read in a
verified response are given as the records they decode to.

* `intervalFromAssertion_eq` — the interval in terms of the asserted instant;
* `handle_ok` — the assertion in terms of the gateway's clock;
* `trustedTimeQuery_ok` — the interval of a query that was answered.
-/
import Pbns.FrameTypes
import Pbns.GatewayStore

namespace Pbns.TrustedTime

open Octets Model Guard

/-! ### Messages -/

def domain : String := "PBNS-TIME-v1"
def version : ℕ := 1
def service : ℕ := 1
def qualityMaxSize : ℕ := 64
def keyIdMaxSize : ℕ := 64
def maxAgeLimitMs : ℕ := 60000

structure Request where
  domain : String
  version : ℕ
  service : ℕ
  requestId : Identifier16
  hostFingerprint : Digest32
  nonce : Digest32
  maxAgeMs : ℕ
  deriving DecidableEq

structure Assertion where
  domain : String
  version : ℕ
  service : ℕ
  requestId : Identifier16
  hostFingerprint : Digest32
  nonce : Digest32
  unixSeconds : Int
  nanoseconds : ℕ
  uncertaintyNs : ℕ
  quality : Octets
  keyId : Octets
  maxAgeMs : ℕ
  deriving DecidableEq

/-! ### The gateway -/

inductive Error
  | invalidRequest
  | hostAuthentication
  | expiredRequest
  | invalidClock
  deriving DecidableEq

def Request.valid (request : Request) : Bool :=
  request.domain = TrustedTime.domain && request.version = 1 &&
    request.service = TrustedTime.service && decide (0 < request.maxAgeMs) &&
    decide (request.maxAgeMs ≤ 60000) && !isZero request.requestId &&
    !isZero request.hostFingerprint && !isZero request.nonce

/-- The readings of the gateway's clock during one call; durations are in nanoseconds. -/
structure Readings where
  started : Int
  now : Time
  uncertainty : Int
  quality : Octets
  finished : Int

/-- The assertion of an instant. -/
def assertionAt (keyID : Octets) (clock : Readings) (request : Request) : Assertion :=
  ⟨TrustedTime.domain, 1, TrustedTime.service, request.requestId, request.hostFingerprint,
    request.nonce, Time.unix clock.now, (clock.now % 1000000000).toNat, clock.uncertainty.toNat,
    clock.quality, keyID, request.maxAgeMs⟩

/-- `Handle` of a message that holds `request`, and whose signature is that of the host it names
when `authentic`. -/
def handle (keyID : Octets) (clock : Readings) (authentic : Bool) (request : Request) :
    Except Error Assertion := do
  rejectIf (clock.started < 0) .expiredRequest
  rejectIf (request.valid = false) .invalidRequest
  rejectIf (authentic = false) .hostAuthentication
  rejectIf (Time.unix clock.now < 0 ∨ clock.uncertainty < 0 ∨ clock.quality.length = 0 ∨
    64 < clock.quality.length) .invalidClock
  rejectIf (clock.finished < clock.started ∨
    (request.maxAgeMs : Int) * 1000000 < clock.finished - clock.started) .expiredRequest
  .ok (assertionAt keyID clock request)

theorem nonneg_of_unix {t : Int} (h : ¬ Time.unix t < 0) : 0 ≤ t := by
  rw [Time.unix] at h
  omega

theorem handle_ok {keyID : Octets} {clock : Readings} {authentic : Bool} {request : Request}
    {assertion : Assertion} (h : handle keyID clock authentic request = .ok assertion) :
    0 ≤ clock.now ∧ 0 ≤ clock.uncertainty ∧ assertion = assertionAt keyID clock request := by
  simp only [handle, rejectIf_bind_eq_ok, not_or] at h
  obtain ⟨-, -, -, ⟨hnow, hunc, -⟩, -, heq⟩ := h
  exact ⟨nonneg_of_unix hnow, Int.not_lt.mp hunc, (Except.ok.inj heq).symm⟩

/-! ### The interval of an assertion -/

def int64Max : Int := 2 ^ 63 - 1

/-- `pbns_time_interval` -/
structure TimeInterval where
  earliestNs : Int
  latestNs : Int
  deriving DecidableEq

/-- `unix_seconds * PBNS_NANOSECONDS_PER_SECOND + nanoseconds` -/
def Assertion.assertedNs (assertion : Assertion) : Int :=
  assertion.unixSeconds * 1000000000 + assertion.nanoseconds

/-- `pbns_time_interval_from_assertion` -/
def intervalFromAssertion (assertion : Assertion) (roundTripNs : ℕ) :
    Except Status TimeInterval := do
  rejectIf (assertion.unixSeconds < 0 ∨ 1000000000 ≤ assertion.nanoseconds) .errFormat
  rejectIf ((int64Max - assertion.nanoseconds) / 1000000000 < assertion.unixSeconds) .errLimit
  let asserted := assertion.assertedNs
  rejectIf (int64Max < assertion.uncertaintyNs ∨ asserted < assertion.uncertaintyNs) .errLimit
  rejectIf (int64Max < roundTripNs ∨ int64Max - asserted < roundTripNs) .errLimit
  let latest := asserted + roundTripNs
  rejectIf (int64Max - latest < assertion.uncertaintyNs) .errLimit
  .ok ⟨asserted - assertion.uncertaintyNs, latest + assertion.uncertaintyNs⟩

/-- `pbns_time_interval_within` -/
def TimeInterval.within (interval : TimeInterval) (notBeforeNs notAfterNs : Int) : Bool :=
  decide (interval.earliestNs ≤ interval.latestNs) && decide (notBeforeNs ≤ notAfterNs) &&
    decide (notBeforeNs ≤ interval.earliestNs) && decide (interval.latestNs ≤ notAfterNs)

theorem intervalFromAssertion_eq {assertion : Assertion} {roundTripNs : ℕ}
    {interval : TimeInterval}
    (h : intervalFromAssertion assertion roundTripNs = .ok interval) :
    interval = ⟨assertion.assertedNs - assertion.uncertaintyNs,
        assertion.assertedNs + roundTripNs + assertion.uncertaintyNs⟩
      ∧ 0 ≤ interval.earliestNs ∧ interval.earliestNs ≤ interval.latestNs
      ∧ interval.latestNs ≤ int64Max := by
  simp only [intervalFromAssertion, rejectIf_bind_eq_ok] at h
  obtain ⟨-, -, hunc, -, hlatest, heq⟩ := h
  obtain rfl := Except.ok.inj heq
  refine ⟨rfl, ?_, ?_, ?_⟩
  · show 0 ≤ assertion.assertedNs - assertion.uncertaintyNs
    omega
  · show assertion.assertedNs - assertion.uncertaintyNs
      ≤ assertion.assertedNs + roundTripNs + assertion.uncertaintyNs
    omega
  · show assertion.assertedNs + roundTripNs + assertion.uncertaintyNs ≤ int64Max
    omega

/-- What was asserted is the instant the gateway read. -/
theorem assertedNs_assertionAt (keyID : Octets) (clock : Readings) (request : Request) :
    (assertionAt keyID clock request).assertedNs = clock.now := by
  have hparts (t : Int) : t / 1000000000 * 1000000000 + ((t % 1000000000).toNat : Int) = t := by
    omega
  exact hparts clock.now

/-! ### The host -/

/-- `assertion_shape_is_valid` -/
def Assertion.shapeIsValid (assertion : Assertion) : Bool :=
  decide (0 ≤ assertion.unixSeconds) && decide (assertion.nanoseconds < 1000000000) &&
    decide (0 < assertion.quality.length) && decide (assertion.quality.length ≤ qualityMaxSize) &&
    decide (0 < assertion.keyId.length) && decide (assertion.keyId.length ≤ keyIdMaxSize) &&
    !isZero assertion.requestId && !isZero assertion.hostFingerprint && !isZero assertion.nonce &&
    decide (0 < assertion.maxAgeMs) && decide (assertion.maxAgeMs ≤ maxAgeLimitMs)

/-- `pbns_trusted_time_decode_verified_assertion`, behind the decoder. -/
def decodeVerifiedAssertion (expectedKeyId : Octets) (decoded : Assertion) :
    Except Status Assertion := do
  rejectIf (expectedKeyId.length = 0 ∨ keyIdMaxSize < expectedKeyId.length) .errArgument
  rejectIf (decoded.shapeIsValid = false) .errFormat
  rejectIf (decoded.domain ≠ TrustedTime.domain) .errAuthentication
  rejectIf (decoded.keyId ≠ expectedKeyId) .errAuthentication
  rejectIf (decoded.version ≠ TrustedTime.version) .errVersion
  rejectIf (decoded.service ≠ TrustedTime.service) .errService
  .ok decoded

/-- `pbns_trusted_time_accept_verified_assertion` -/
def acceptVerifiedAssertion (assertion : Assertion) (request : Request)
    (roundTripMs maximumRoundTripMs : ℕ) (previous : Option TimeInterval) :
    Except Status TimeInterval := do
  rejectIf (assertion.version ≠ TrustedTime.version ∨ assertion.service ≠ TrustedTime.service ∨
    assertion.quality.length = 0 ∨ qualityMaxSize < assertion.quality.length ∨
    assertion.keyId.length = 0 ∨ keyIdMaxSize < assertion.keyId.length ∨
    assertion.maxAgeMs = 0 ∨ maxAgeLimitMs < assertion.maxAgeMs) .errFormat
  rejectIf (previous.any (fun p => decide (p.latestNs < p.earliestNs)) = true) .errArgument
  rejectIf (assertion.domain ≠ TrustedTime.domain ∨ assertion.requestId ≠ request.requestId ∨
    assertion.hostFingerprint ≠ request.hostFingerprint ∨ assertion.nonce ≠ request.nonce)
    .errAuthentication
  rejectIf (maximumRoundTripMs < roundTripMs ∨ assertion.maxAgeMs < roundTripMs) .errTimeout
  rejectIf ((2 ^ 64 - 1) / 1000000 < roundTripMs) .errLimit
  let interval ← intervalFromAssertion assertion (roundTripMs * 1000000)
  rejectIf (previous.any (fun p => decide (interval.earliestNs ≤ p.earliestNs)) = true) .errReplay
  .ok interval

/-- `pbns_trusted_time_client`: `κ` are signed requests and `ρ` signed responses. -/
structure Client (κ ρ : Type) where
  randomFill : Except Status (Identifier16 × Digest32)
  signRequest : Request → Except Status κ
  exchange : κ → Except Status ρ
  verifyAssertion : Request → ρ → Except Status Assertion
  /-- the clock before the exchange and behind it -/
  startedMs : Except Status ℕ
  finishedMs : Except Status ℕ
  timeKeyId : Octets
  maximumRoundTripMs : ℕ

/-- `client_is_valid` -/
def Client.isValid {κ ρ : Type} (client : Client κ ρ) : Bool :=
  decide (0 < client.timeKeyId.length) && decide (client.timeKeyId.length ≤ keyIdMaxSize) &&
    decide (0 < client.maximumRoundTripMs) && decide (client.maximumRoundTripMs ≤ maxAgeLimitMs)

/-- The request of a query. -/
def Client.request {κ ρ : Type} (client : Client κ ρ) (hostFingerprint : Digest32)
    (random : Identifier16 × Digest32) : Request :=
  ⟨TrustedTime.domain, TrustedTime.version, TrustedTime.service, random.1, hostFingerprint,
    random.2, client.maximumRoundTripMs % 2 ^ 32⟩

/-- The round trip of a query, in milliseconds. -/
def Client.roundTripMs {κ ρ : Type} (client : Client κ ρ) : ℕ :=
  match client.startedMs, client.finishedMs with
  | .ok started, .ok finished => finished - started
  | _, _ => 0

/-- `pbns_trusted_time_query` -/
def trustedTimeQuery {κ ρ : Type} (client : Client κ ρ) (hostFingerprint : Digest32)
    (previous : Option TimeInterval) : Except Status TimeInterval := do
  rejectIf (client.isValid = false ∨ isZero hostFingerprint = true) .errArgument
  let random ← client.randomFill
  let request := client.request hostFingerprint random
  rejectIf (request.valid = false) .errFormat
  let signed ← client.signRequest request
  let started ← client.startedMs
  let exchanged := client.exchange signed
  let finished ← client.finishedMs
  let response ← exchanged
  rejectIf (finished < started) .errState
  rejectIf (client.maximumRoundTripMs < finished - started) .errTimeout
  let decoded ← client.verifyAssertion request response
  let assertion ← decodeVerifiedAssertion client.timeKeyId decoded
  rejectIf (assertion.maxAgeMs ≠ request.maxAgeMs) .errAuthentication
  acceptVerifiedAssertion assertion request (finished - started) client.maximumRoundTripMs previous

theorem acceptVerifiedAssertion_ok {assertion : Assertion} {request : Request}
    {roundTripMs maximumRoundTripMs : ℕ} {previous : Option TimeInterval} {interval : TimeInterval}
    (h : acceptVerifiedAssertion assertion request roundTripMs maximumRoundTripMs previous
      = .ok interval) :
    intervalFromAssertion assertion (roundTripMs * 1000000) = .ok interval := by
  simp only [acceptVerifiedAssertion, rejectIf_bind_eq_ok] at h
  obtain ⟨-, -, -, -, -, h⟩ := h
  obtain ⟨found, hfound, h⟩ := bind_eq_ok.mp h
  rw [rejectIf_bind_eq_ok] at h
  rw [hfound, Except.ok.inj h.2]

theorem decodeVerifiedAssertion_ok {expectedKeyId : Octets} {decoded assertion : Assertion}
    (h : decodeVerifiedAssertion expectedKeyId decoded = .ok assertion) : assertion = decoded := by
  simp only [decodeVerifiedAssertion, rejectIf_bind_eq_ok] at h
  exact (Except.ok.inj h.2.2.2.2.2.2).symm

section Query

variable {κ ρ : Type} {client : Client κ ρ}

/-- The client's assertions come from the gateway: what it verifies in the response to a request
is what `Handle` has returned for that request. -/
def Client.AnsweredBy (client : Client κ ρ) (keyID : Octets) (clock : Readings) : Prop :=
  ∀ request signed response assertion, client.signRequest request = .ok signed →
    client.exchange signed = .ok response →
    client.verifyAssertion request response = .ok assertion →
    handle keyID clock true request = .ok assertion

/-- A query that succeeds has verified an assertion, and its interval is that of the assertion. -/
theorem trustedTimeQuery_verified {hostFingerprint : Digest32} {previous : Option TimeInterval}
    {interval : TimeInterval} (h : trustedTimeQuery client hostFingerprint previous = .ok interval) :
    ∃ request signed response assertion, client.signRequest request = .ok signed
      ∧ client.exchange signed = .ok response
      ∧ client.verifyAssertion request response = .ok assertion
      ∧ intervalFromAssertion assertion (client.roundTripMs * 1000000) = .ok interval := by
  simp only [trustedTimeQuery, bind_eq_ok, rejectIf_eq_ok, exists_const] at h
  obtain ⟨-, random, -, -, signed, hsigned, started, hstarted, finished, hfinished, response, hresponse, -, -,
    decoded, hdecoded, assertion, hassertion, -, h⟩ := h
  rw [decodeVerifiedAssertion_ok hassertion] at h
  have htrip : client.roundTripMs = finished - started := by
    rw [Client.roundTripMs, hstarted, hfinished]
  refine ⟨_, _, _, _, hsigned, hresponse, hdecoded, ?_⟩
  rw [htrip]
  exact acceptVerifiedAssertion_ok h

/-- **The interval of a query** that the gateway answered at the instant `clock.now`. -/
theorem trustedTimeQuery_ok {hostFingerprint : Digest32} {previous : Option TimeInterval}
    {interval : TimeInterval} {keyID : Octets} {clock : Readings}
    (h : trustedTimeQuery client hostFingerprint previous = .ok interval)
    (hanswer : client.AnsweredBy keyID clock) :
    interval = ⟨clock.now - clock.uncertainty,
        clock.now + client.roundTripMs * 1000000 + clock.uncertainty⟩
      ∧ 0 ≤ interval.earliestNs ∧ interval.earliestNs ≤ interval.latestNs
      ∧ interval.latestNs ≤ int64Max ∧ 0 ≤ clock.uncertainty := by
  obtain ⟨request, signed, response, assertion, hsigned, hresponse, hverified, hinterval⟩ :=
    trustedTimeQuery_verified h
  obtain ⟨-, hunc, rfl⟩ := handle_ok (hanswer _ _ _ _ hsigned hresponse hverified)
  obtain ⟨heq, hearliest, horder, hlatest⟩ := intervalFromAssertion_eq hinterval
  refine ⟨?_, hearliest, horder, hlatest, hunc⟩
  have huncertain : ((assertionAt keyID clock request).uncertaintyNs : Int) = clock.uncertainty :=
    Int.toNat_of_nonneg hunc
  rw [heq, assertedNs_assertionAt, huncertain, Int.natCast_mul]
  rfl

end Query

end Pbns.TrustedTime
