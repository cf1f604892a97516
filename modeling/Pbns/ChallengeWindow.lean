/-
The host accepts an attestation challenge (`src/core/attestation.c`) at a time it has asked the
gateway for.

The challenge is stamped by `Issue`, the time comes from `Handle` of the time service, and the
host compares the two: it wants its whole interval inside the challenge's window.

* `decodeChallenge_ok` — the instants the host reads are those in the map;
* `acceptChallenge_of_read` — the decision on the window;
* `fresh_challenge` — a fresh challenge is accepted exactly when the time that has passed since
  it was issued covers the uncertainty.
-/
import Pbns.Attestation
import Pbns.TrustedTime

namespace Pbns.Attestation

open Octets Model Guard TrustedTime

def challengeMaxSize : ℕ := 4096
def maxRecipientKid : ℕ := 64
def selectionMaxCount : ℕ := 24
def pcrIndexMax : ℕ := 23
def pcrBankMax : ℕ := 65535

/-! ### The host's view of a challenge -/

/-- `pbns_measured_boot_selection_item` -/
structure SelectionItem where
  hashAlgorithm : ℕ
  pcrIndex : ℕ
  deriving DecidableEq

/-- `pbns_attestation_challenge` -/
structure HostChallenge where
  requestId : Identifier16
  hostFingerprint : Digest32
  verifierNonce : Digest32
  selectionItems : List SelectionItem
  recipientKid : Octets
  issuedAtNs : ℕ
  expiryNs : ℕ
  deriving DecidableEq

/-- The loop of `selection_valid`, behind the item `previous`. -/
def itemsValid : Option SelectionItem → List SelectionItem → Bool
  | _, [] => true
  | previous, item :: rest =>
    if pcrIndexMax < item.pcrIndex then false
    else if previous.any (fun p => decide (item.hashAlgorithm < p.hashAlgorithm ∨
        (item.hashAlgorithm = p.hashAlgorithm ∧ item.pcrIndex ≤ p.pcrIndex))) = true then false
    else itemsValid (some item) rest

def selectionValid (items : List SelectionItem) : Bool :=
  if items.length = 0 ∨ selectionMaxCount < items.length then false else itemsValid none items

/-- The inner loop of `decode_selection`. -/
def addPcrs (algorithm : ℕ) : List ℕ → List SelectionItem → Option (List SelectionItem)
  | [], items => some items
  | index :: rest, items =>
    if selectionMaxCount ≤ items.length ∨ pcrIndexMax < index then none
    else addPcrs algorithm rest (items ++ [⟨algorithm, index⟩])

/-- The outer loop of `decode_selection`. -/
def addBanks : List PCRBank → List SelectionItem → Option (List SelectionItem)
  | [], items => some items
  | bank :: rest, items =>
    if pcrBankMax < bank.algorithm ∨ bank.indices.length = 0 then none
    else (addPcrs bank.algorithm bank.indices items).bind (addBanks rest)

def decodeSelection (banks : List PCRBank) : Option (List SelectionItem) :=
  if banks.length = 0 then none
  else (addBanks banks []).bind fun items => if selectionValid items = true then some items else none

/-- The loops of `encode_selection`: neighbours of one algorithm share a bank. -/
def encodeSelection : List SelectionItem → List PCRBank
  | [] => []
  | item :: rest =>
    match encodeSelection rest with
    | bank :: banks =>
      if bank.algorithm = item.hashAlgorithm then
        ⟨item.hashAlgorithm, item.pcrIndex :: bank.indices⟩ :: banks
      else ⟨item.hashAlgorithm, [item.pcrIndex]⟩ :: bank :: banks
    | [] => [⟨item.hashAlgorithm, [item.pcrIndex]⟩]

/-- A byte string of a fixed size. -/
def fixedBytes (n : ℕ) (bytes : Octets) : Option (OctetArray n) :=
  if h : bytes.length = n then some ⟨bytes, h⟩ else none

/-- `decode_challenge` of a payload that holds the map. -/
def decodeChallenge (map : ChallengeMap) : Except Status HostChallenge := do
  rejectIf (map.domain ≠ domain ∨ map.version ≠ 1 ∨ map.service ≠ serviceAttestation) .errFormat
  let requestId ← orReject .errFormat (fixedBytes 16 map.requestId)
  let hostFingerprint ← orReject .errFormat (fixedBytes 32 map.hostFingerprint)
  let verifierNonce ← orReject .errFormat (fixedBytes 32 map.nonce)
  rejectIf (map.body.length ≠ 0 ∨ map.verifierNonce ≠ verifierNonce.toList) .errFormat
  let selectionItems ← orReject .errFormat (decodeSelection map.selection)
  rejectIf (map.recipientKid.length = 0 ∨ maxRecipientKid < map.recipientKid.length) .errFormat
  rejectIf (map.expiry ≠ map.expiresAt ∨ map.expiresAt < map.issuedAt ∨
    int64Max < map.expiresAt) .errFormat
  .ok ⟨requestId, hostFingerprint, verifierNonce, selectionItems, map.recipientKid, map.issuedAt,
    map.expiresAt⟩

/-- The map `pbns_attestation_challenge_encode` writes. -/
def HostChallenge.map (challenge : HostChallenge) : ChallengeMap :=
  ⟨domain, 1, serviceAttestation, challenge.requestId.toList, challenge.hostFingerprint.toList,
    challenge.verifierNonce.toList, challenge.issuedAtNs, challenge.expiryNs, [],
    challenge.verifierNonce.toList, encodeSelection challenge.selectionItems,
    challenge.recipientKid, challenge.expiryNs⟩

/-- `pbns_attestation_challenge_expected` -/
structure ChallengeExpected where
  requestId : Identifier16
  hostFingerprint : Digest32
  verifierNonce : Digest32
  recipientKid : Octets
  challengeKid : Octets

/-- `pbns_attestation_challenge_aad`; the array has at most 190 octets, and its buffer 256. -/
def expectedAad (expected : ChallengeExpected) : Except Status ChallengeAAD := do
  rejectIf (expected.recipientKid.length = 0 ∨ maxRecipientKid < expected.recipientKid.length)
    .errArgument
  .ok (challengeAAD expected.requestId expected.hostFingerprint expected.verifierNonce
    expected.recipientKid)

section Accept

variable {σ π : Type} [DecidableEq π] (envelope : Envelope σ π)

omit [DecidableEq π] in
/-- `pbns_attestation_challenge_encode` -/
def challengeEncode (challenge : HostChallenge) : Except Status π := do
  rejectIf (selectionValid challenge.selectionItems = false ∨ challenge.recipientKid.length = 0 ∨
    maxRecipientKid < challenge.recipientKid.length ∨ challenge.expiryNs < challenge.issuedAtNs ∨
    int64Max < challenge.expiryNs) .errArgument
  rejectIf (challengeMaxSize < envelope.size (envelope.write challenge.map)) .errLimit
  .ok (envelope.write challenge.map)

/-- `pbns_attestation_accept_challenge` up to the test of the time. -/
def readChallenge (signed : σ) (expected : ChallengeExpected) : Except Status HostChallenge := do
  rejectIf (envelope.signedSize signed = 0 ∨ challengeMaxSize < envelope.signedSize signed ∨
    expected.challengeKid.length = 0 ∨ maxRecipientKid < expected.challengeKid.length) .errArgument
  rejectIf (envelope.profileValid signed expected.challengeKid = false) .errFormat
  let aad ← expectedAad expected
  let payload ← envelope.verify signed aad expected.challengeKid
  rejectIf (challengeMaxSize < envelope.size payload) .errLimit
  let map ← orReject .errFormat (envelope.read payload)
  let parsed ← decodeChallenge map
  let canonical ← challengeEncode envelope parsed
  rejectIf (canonical ≠ payload) .errFormat
  rejectIf (parsed.requestId ≠ expected.requestId ∨
    parsed.hostFingerprint ≠ expected.hostFingerprint ∨
    parsed.verifierNonce ≠ expected.verifierNonce ∨ parsed.recipientKid ≠ expected.recipientKid)
    .errAuthentication
  .ok parsed

/-- `pbns_attestation_accept_challenge` -/
def acceptChallenge (signed : σ) (expected : ChallengeExpected) (trustedTime : TimeInterval) :
    Except Status HostChallenge := do
  let parsed ← readChallenge envelope signed expected
  rejectIf (trustedTime.earliestNs < 0 ∨ trustedTime.latestNs < 0 ∨
    trustedTime.latestNs < trustedTime.earliestNs ∨
    trustedTime.earliestNs < parsed.issuedAtNs ∨ (parsed.expiryNs : Int) < trustedTime.latestNs)
    .errTimeout
  .ok parsed

end Accept

/-! ### What is read -/

theorem decodeChallenge_ok {map : ChallengeMap} {challenge : HostChallenge}
    (h : decodeChallenge map = .ok challenge) :
    challenge.issuedAtNs = map.issuedAt ∧ challenge.expiryNs = map.expiresAt := by
  simp only [decodeChallenge, bind_eq_ok, rejectIf_eq_ok, exists_const] at h
  obtain ⟨-, requestId, -, hostFingerprint, -, verifierNonce, -, -, selectionItems, -, -, -, h⟩ := h
  obtain rfl := Except.ok.inj h
  exact ⟨rfl, rfl⟩

section Read

variable {σ π : Type} [DecidableEq π] {envelope : Envelope σ π} {signed : σ}
  {expected : ChallengeExpected} {challenge : HostChallenge}

/-- What the host reads in a message the gateway has signed. -/
theorem readChallenge_ok (henvelope : envelope.Documented) {issued : Challenge}
    (hsigned : signChallenge envelope issued = .ok signed)
    (h : readChallenge envelope signed expected = .ok challenge) :
    challenge.issuedAtNs = issued.context.issuedAtUnixNS
      ∧ challenge.expiryNs = issued.context.expiresAtUnixNS := by
  rw [signChallenge, orReject_eq_ok] at hsigned
  simp only [readChallenge, bind_eq_ok, rejectIf_eq_ok, exists_const, orReject_eq_ok] at h
  obtain ⟨-, -, aad, -, payload, hverify, -, map, hmap, parsed, hparsed, canonical, -, -, -, h⟩ := h
  obtain rfl := Except.ok.inj h
  -- the payload is the one that was signed, so the map is the one that was written
  rw [henvelope.verify_sign hsigned hverify, henvelope.read_write] at hmap
  obtain rfl := Option.some.inj hmap
  exact decodeChallenge_ok hparsed

/-- The decision on the window, for an interval that is one. -/
theorem acceptChallenge_of_read {trustedTime : TimeInterval}
    (hread : readChallenge envelope signed expected = .ok challenge)
    (hearliest : 0 ≤ trustedTime.earliestNs)
    (horder : trustedTime.earliestNs ≤ trustedTime.latestNs)
    (hlatest : trustedTime.latestNs ≤ challenge.expiryNs) :
    acceptChallenge envelope signed expected trustedTime
      = if (challenge.issuedAtNs : Int) ≤ trustedTime.earliestNs then .ok challenge
        else .error .errTimeout := by
  rw [acceptChallenge, hread, bind_ok]
  by_cases hissued : (challenge.issuedAtNs : Int) ≤ trustedTime.earliestNs
  · rw [if_pos hissued, rejectIf_bind_of_not (by omega)]
  · rw [if_neg hissued, rejectIf_bind_of_pos (by omega)]

end Read

/-! ### The window of a fresh challenge -/

/-- The uncertainties the gateway's configuration accepts. -/
def timeUncertaintyAccepted (uncertainty : Int) : Bool :=
  !(decide (uncertainty < 0) || decide (60 * 60 * 1000000000 < uncertainty))

theorem unixNano_of_range {t : Int} (h₀ : 0 ≤ t) (h : t ≤ int64Max) : Time.unixNano t = t := by
  rw [Time.unixNano, Int.bmod_def, int64Max] at *
  omega

/-- **When a fresh challenge is accepted.**  It was issued at `now`, and the gateway has answered
the host's query at the later instant `clock.now` of the same clock.  If the challenge is not
about to expire, the window lets it through exactly when the time between the two covers the
uncertainty. -/
theorem fresh_challenge {σ π κ ρ : Type} [DecidableEq π] {envelope : Envelope σ π}
    (henvelope : envelope.Documented) {service : Service} {sha256 : Octets → Digest32}
    {host : Except Store.Error HostRecord} {hostFingerprint : Digest32} {now : Time} {draws : Draws}
    {create : ℕ → Store.AttestationChallenge → Except Store.Error Unit}
    {issued : IssuedChallenge σ}
    (hissue : issue envelope service sha256 host hostFingerprint now draws create = .ok issued)
    {client : Client κ ρ} {keyID : Octets} {clock : Readings}
    (hanswer : client.AnsweredBy keyID clock) (hlater : now ≤ clock.now)
    {previous : Option TimeInterval} {interval : TimeInterval}
    (hquery : trustedTimeQuery client hostFingerprint previous = .ok interval)
    (hexpiry : clock.now + client.roundTripMs * 1000000 + clock.uncertainty
      ≤ Time.unixNano (now + service.ttl))
    {expected : ChallengeExpected} {challenge : HostChallenge}
    (hread : readChallenge envelope issued.signed expected = .ok challenge) :
    acceptChallenge envelope issued.signed expected interval
        = (if clock.uncertainty ≤ clock.now - Time.unixNano now then .ok challenge
          else .error .errTimeout)
      ∧ (0 ≤ now → Time.unixNano now = now) := by
  obtain ⟨hnow, hexpires, nonce, hsigned, -⟩ := issue_ok hissue
  obtain ⟨hinterval, hearliest, horder, hlatest, hunc⟩ := trustedTimeQuery_ok hquery hanswer
  obtain ⟨hissuedAt, hexpiryNs⟩ := readChallenge_ok henvelope hsigned hread
  have hissuedNs : (challenge.issuedAtNs : Int) = Time.unixNano now := by
    rw [hissuedAt]
    exact Int.toNat_of_nonneg (Int.le_of_lt hnow)
  have hexpiryAt : (challenge.expiryNs : Int) = Time.unixNano (now + service.ttl) := by
    rw [hexpiryNs]
    exact Int.toNat_of_nonneg (Int.le_of_lt (Int.lt_trans hnow hexpires))
  have hends : interval.latestNs
      = clock.now + client.roundTripMs * 1000000 + clock.uncertainty := by rw [hinterval]
  have hstarts : interval.earliestNs = clock.now - clock.uncertainty := by rw [hinterval]
  constructor
  · rw [acceptChallenge_of_read hread hearliest horder (by rw [hends, hexpiryAt]; exact hexpiry),
      hissuedNs, hstarts]
    have hiff (t u s : Int) : s ≤ t - u ↔ u ≤ t - s := by omega
    simp only [hiff clock.now clock.uncertainty]
  · intro hnonneg
    refine unixNano_of_range hnonneg ?_
    -- the interval fits 64 bits, and `now` lies before its end
    have hbound (n t r u l : Int) (h₁ : n ≤ t) (h₂ : l = t + r * 1000000 + u) (h₃ : l ≤ int64Max)
        (h₄ : 0 ≤ r) (h₅ : 0 ≤ u) : n ≤ int64Max := by omega
    exact hbound now clock.now client.roundTripMs clock.uncertainty interval.latestNs hlater hends
      hlatest (Int.natCast_nonneg _) hunc

/-! ### A challenge and a query -/

/-- A signature that is the data it covers. -/
def openEnvelope : Envelope (ChallengeAAD × ChallengeMap) ChallengeMap where
  write map := map
  read map := some map
  size _ := 200
  sign aad map := some (aad, map)
  signedSize _ := 300
  profileValid _ _ := true
  verify message aad _ := if message.1 = aad then .ok message.2 else .error .errAuthentication

theorem openEnvelope_documented : openEnvelope.Documented where
  read_write _ := rfl
  verify_sign := by
    rintro aad aad' payload payload' kid signed hsign hverify
    obtain rfl := Option.some.inj hsign
    simp only [openEnvelope] at hverify
    split_ifs at hverify
    exact (Except.ok.inj hverify).symm

def sampleHost : Digest32 := List.Vector.replicate 32 1#8

def sampleNonce : Digest32 := List.Vector.replicate 32 2#8

def sampleService : Service := ⟨[5#8], 300000000000, by decide, by decide⟩

def sampleHostRecord : HostRecord :=
  ⟨sampleHost, [1#8], [], [], [], List.Vector.replicate 32 0#8, .software, sampleNonce, 1⟩

/-- The challenge of `sampleHost`, issued at second 1000. -/
def sampleIssue : Except Error (IssuedChallenge (ChallengeAAD × ChallengeMap)) :=
  issue openEnvelope sampleService (fun _ => sampleHost) (.ok sampleHostRecord) sampleHost
    1000000000000 ⟨fun _ => some (List.Vector.replicate 16 3#8), fun _ => some sampleNonce⟩
    (fun _ _ => .ok ())

/-- The readings of the time service `elapsed` nanoseconds later. -/
def sampleReadings (elapsed uncertainty : Int) : Readings :=
  ⟨0, 1000000000000 + elapsed, uncertainty, [7#8], 1000⟩

/-- A client whose signed messages are the messages, with a round trip of 5 ms. -/
def sampleClient (clock : Readings) : Client Request Assertion where
  randomFill := .ok (List.Vector.replicate 16 4#8, List.Vector.replicate 32 4#8)
  signRequest request := .ok request
  exchange request :=
    match handle [9#8] clock true request with
    | .ok assertion => .ok assertion
    | .error _ => .error .errIo
  verifyAssertion _ assertion := .ok assertion
  startedMs := .ok 10
  finishedMs := .ok 15
  timeKeyId := [9#8]
  maximumRoundTripMs := 1000

theorem sampleClient_answered (clock : Readings) : (sampleClient clock).AnsweredBy [9#8] clock := by
  intro request signed response assertion hsigned hresponse hverified
  obtain rfl := Except.ok.inj hsigned
  obtain rfl := Except.ok.inj hverified
  simp only [sampleClient] at hresponse
  split at hresponse
  · next found hfound => rw [hfound, Except.ok.inj hresponse]
  · simp at hresponse

def sampleExpected : ChallengeExpected :=
  ⟨List.Vector.replicate 16 3#8, sampleHost, sampleNonce, [5#8], [6#8]⟩

/-- Two seconds after it was issued, an uncertainty of one second does no harm. -/
theorem fresh_challenge_sample : ∃ issued interval challenge, sampleIssue = .ok issued
    ∧ trustedTimeQuery (sampleClient (sampleReadings 2000000000 1000000000)) sampleHost none
      = .ok interval
    ∧ acceptChallenge openEnvelope issued.signed sampleExpected interval = .ok challenge := by
  obtain ⟨issued, hissued⟩ : ∃ issued, sampleIssue = .ok issued := ⟨_, rfl⟩
  obtain ⟨challenge, hread⟩ : ∃ challenge,
      readChallenge openEnvelope issued.signed sampleExpected = .ok challenge := by
    obtain rfl := Except.ok.inj hissued
    exact ⟨_, rfl⟩
  have hquery : trustedTimeQuery (sampleClient (sampleReadings 2000000000 1000000000)) sampleHost
      none = .ok ⟨1001000000000, 1003005000000⟩ := by decide +kernel
  refine ⟨issued, _, challenge, hissued, hquery, ?_⟩
  exact (fresh_challenge openEnvelope_documented hissued (sampleClient_answered _) (by decide)
    hquery (by decide) hread).1

/-- Ten milliseconds after it was issued, the same uncertainty makes the host reject a challenge
that is valid for minutes. -/
theorem fresh_challenge_early : timeUncertaintyAccepted 1000000000 = true
    ∧ ∃ issued interval, sampleIssue = .ok issued
      ∧ (sampleClient (sampleReadings 10000000 1000000000)).AnsweredBy [9#8]
        (sampleReadings 10000000 1000000000)
      ∧ trustedTimeQuery (sampleClient (sampleReadings 10000000 1000000000)) sampleHost none
        = .ok interval
      ∧ interval.latestNs ≤ Time.unixNano (1000000000000 + sampleService.ttl)
      ∧ acceptChallenge openEnvelope issued.signed sampleExpected interval
        = .error .errTimeout := by
  have hquery : trustedTimeQuery (sampleClient (sampleReadings 10000000 1000000000)) sampleHost none
      = .ok ⟨999010000000, 1001015000000⟩ := by decide +kernel
  obtain ⟨issued, hissued⟩ : ∃ issued, sampleIssue = .ok issued := ⟨_, rfl⟩
  refine ⟨by decide, issued, _, hissued, sampleClient_answered _, hquery, by decide, ?_⟩
  obtain rfl := Except.ok.inj hissued
  rfl

end Pbns.Attestation
