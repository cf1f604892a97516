/-
The enrollment application (`uefi/Applications/PbnsEnroll/PbnsEnroll.c`, `src/core/enrollment.c`,
`src/core/enrollment_wire.c`) and the gateway on the outcome of an enrollment.

The gateway writes into its receipt what it found out about the certificate of the endorsement
key.  The application expects a verified certificate whenever it has sent one, whether or not the
gateway could verify it (`enrollment_outcome_differs`).

* `Application.checkReceipt` — the check of the receipt;
* `enrollment_outcome` — when it accepts the receipt of an enrollment that was stored.
-/
import Pbns.EarnedHosts
import Pbns.FrameTypes

namespace Pbns.EnrollmentClient

open Octets Model Guard Enrollment

/-! ### `enrollment.c` -/

/-- `pbns_enrollment_state` -/
inductive Phase
  | init
  | challengeVerified
  | proofReady
  | complete
  | failed
  deriving DecidableEq

/-- The identity of the application, and `pbns_enrollment_assurance`. -/
inductive Mode
  | software
  | tpm
  deriving DecidableEq

/-- `pbns_enrollment` -/
structure Session where
  phase : Phase
  assurance : Mode
  requestID : Identifier16
  hostNonce : Digest32
  serverNonce : Digest32
  initDigest : Digest32
  baselineDigest : Digest32
  deriving DecidableEq

/-- `pbns_enrollment_init` -/
def start (assurance : Mode) (requestID : Identifier16)
    (hostNonce initDigest baselineDigest : Digest32) : Except Status Session := do
  rejectIf (isZero requestID = true ∨ isZero hostNonce = true ∨ isZero initDigest = true ∨
    isZero baselineDigest = true) .errArgument
  .ok ⟨.init, assurance, requestID, hostNonce, List.Vector.replicate 32 0#8, initDigest,
    baselineDigest⟩

/-- `fail_authentication` -/
def Session.failAuthentication (session : Session) : Status × Session :=
  (.errAuthentication, { session with phase := .failed })

def Session.acceptChallenge (session : Session) (hostNonce serverNonce initDigest : Digest32)
    (signatureVerified : Bool) : Status × Session :=
  if isZero serverNonce = true then (.errArgument, session)
  else if session.phase ≠ .init then (.errState, session)
  else if signatureVerified = false ∨ session.hostNonce ≠ hostNonce ∨
      session.initDigest ≠ initDigest then session.failAuthentication
  else (.ok, { session with serverNonce, phase := .challengeVerified })

def Session.prepareProof (session : Session) (serverNonce initDigest baselineDigest : Digest32)
    (activationVerified identitySignatureVerified : Bool) : Status × Session :=
  if session.phase ≠ .challengeVerified then (.errState, session)
  else if ¬ (session.assurance = .software ∨
        (session.assurance = .tpm ∧ activationVerified = true)) ∨
      identitySignatureVerified = false ∨ session.serverNonce ≠ serverNonce ∨
      session.initDigest ≠ initDigest ∨ session.baselineDigest ≠ baselineDigest then
    session.failAuthentication
  else (.ok, { session with phase := .proofReady })

def Session.complete (session : Session) (requestID : Identifier16) (serverNonce : Digest32)
    (receiptSignatureVerified : Bool) : Status × Session :=
  if session.phase ≠ .proofReady then (.errState, session)
  else if receiptSignatureVerified = false ∨ session.requestID ≠ requestID ∨
      session.serverNonce ≠ serverNonce then session.failAuthentication
  else (.ok, { session with phase := .complete })

/-! ### `enrollment_wire.c` -/

def keyIDMaxSize : ℕ := 64
def publicKeyMaxSize : ℕ := 16384
def baselineMaxSize : ℕ := 60 * 1024
def objectMaxSize : ℕ := 65536
/-- The size of the application's buffer for additional data. -/
def aadBufferSize : ℕ := 192

/-- `common_valid` -/
def commonValid (context : CommonContext) (stage sequence : ℕ) : Bool :=
  !isZero context.requestID && !isZero context.hostFingerprint && !isZero context.nonce &&
    context.stage = stage && context.sequence = sequence && decide (0 < context.keyID.length) &&
    decide (context.keyID.length ≤ keyIDMaxSize)

/-- The checks of `decode_common` on the constants of a context. -/
def commonDecoded (context : CommonContext) : Bool :=
  context.domain = domain && context.version = 1 && context.service = Enrollment.serviceEnrollment

def challengeValid (challenge : Challenge) : Bool :=
  commonValid challenge.context stageChallenge 0 &&
    challenge.hostNonce = challenge.context.nonce && !isZero challenge.serverNonce &&
    !isZero challenge.initDigest &&
    (challenge.flow = flowSoftware || challenge.flow = flowTPM) &&
    (challenge.flow ≠ flowSoftware ||
      (challenge.credentialBlob.length = 0 && challenge.encryptedSecret.length = 0))

/-- `pbns_enrollment_receipt_object`; the assurance is a text. -/
structure ReceiptObject where
  context : CommonContext
  fingerprint : Digest32
  assurance : String
  baselineDigest : Digest32
  enrolledAtUnix : Int
  keyID : Octets
  deriving DecidableEq

def receiptValid (receipt : ReceiptObject) : Bool :=
  commonValid receipt.context stageReceipt 2 && !isZero receipt.fingerprint &&
    decide (0 < receipt.assurance.utf8ByteSize) && decide (receipt.assurance.utf8ByteSize ≤ 64) &&
    !isZero receipt.baselineDigest && decide (0 < receipt.enrolledAtUnix) &&
    receipt.context.keyID = receipt.keyID

/-- The libraries of the application: COSE_Sign1 messages and canonical CBOR. -/
structure Library where
  /-- `extract_sign1_payload`: the payload of a message whose protected headers are the algorithm
  and this key identifier -/
  extractSign1Payload : (message keyID : Octets) → Option Octets
  decodeChallenge : Octets → Option Challenge
  decodeReceipt : Octets → Option ReceiptObject
  /-- `pbns_cose_uefi_sign1_verify` with the trusted key, to the payload -/
  verify : (message aad : Octets) → Option Octets

/-- `decode_inputs` -/
def decodeInputs (encoded expectedKeyID : Octets) : Except Status Unit :=
  rejectIf (encoded.length = 0 ∨ objectMaxSize < encoded.length ∨ expectedKeyID.length = 0 ∨
    keyIDMaxSize < expectedKeyID.length) .errArgument

/-- `pbns_enrollment_challenge_decode` -/
def challengeDecode (client : Library) (encoded expectedKeyID : Octets) :
    Except Status Challenge := do
  decodeInputs encoded expectedKeyID
  let challenge ← orReject .errFormat (client.decodeChallenge encoded)
  rejectIf (commonDecoded challenge.context = false ∨ challengeValid challenge = false) .errFormat
  rejectIf (challenge.context.keyID ≠ expectedKeyID) .errAuthentication
  .ok challenge

/-- `pbns_enrollment_receipt_decode` -/
def receiptDecode (client : Library) (encoded expectedKeyID : Octets) :
    Except Status ReceiptObject := do
  decodeInputs encoded expectedKeyID
  let receipt ← orReject .errFormat (client.decodeReceipt encoded)
  rejectIf (commonDecoded receipt.context = false ∨ receiptValid receipt = false) .errFormat
  rejectIf (receipt.context.keyID ≠ expectedKeyID ∨ receipt.keyID ≠ expectedKeyID)
    .errAuthentication
  .ok receipt

/-- Additional data in its buffer. -/
def fitted (aad : Octets) : Except Status Octets := do
  rejectIf (aadBufferSize < aad.length) .errLimit
  .ok aad

/-- `pbns_enrollment_challenge_aad` -/
def challengeAad (challenge : Challenge) : Except Status Octets := do
  rejectIf (challengeValid challenge = false) .errArgument
  fitted (ascii "PBNS-ENROLLMENT-CHALLENGE-v1" ++ challenge.context.requestID.toList
    ++ challenge.hostNonce.toList ++ challenge.serverNonce.toList ++ challenge.initDigest.toList
    ++ challenge.context.keyID)

/-- `pbns_enrollment_receipt_aad` -/
def receiptAad (receipt : ReceiptObject) (serverNonce : Digest32) : Except Status Octets := do
  rejectIf (receiptValid receipt = false ∨ isZero serverNonce = true) .errArgument
  fitted (ascii "PBNS-ENROLLMENT-RECEIPT-v1" ++ receipt.context.requestID.toList
    ++ receipt.context.nonce.toList ++ serverNonce.toList ++ receipt.fingerprint.toList
    ++ receipt.keyID)

/-! ### The application -/

/-- What the application has when it begins. -/
structure Application where
  mode : Mode
  recipientKID : Octets
  signerKID : Octets
  requestID : Identifier16
  hostNonce : Digest32
  fingerprint : Digest32
  token : Digest32
  identityCOSEKey : Octets
  baseline : Octets
  baselineDigest : Digest32
  ekPublic : Octets
  akPublic : Octets
  akName : Octets
  /-- empty when the TPM has none -/
  ekCertificate : Octets
  identityTPMPublic : Octets

/-- What the TPM answers to a challenge. -/
structure TPMEvidence where
  activatedCredential : Octets
  certifyAttestation : Octets
  certifySignature : Octets

namespace Application

variable (app : Application)

def context (stage sequence : ℕ) : CommonContext :=
  ⟨domain, 1, Enrollment.serviceEnrollment, app.requestID, app.fingerprint, app.hostNonce, stage, sequence,
    app.recipientKID⟩

def flow : ℕ :=
  match app.mode with
  | .software => flowSoftware
  | .tpm => flowTPM

/-- The init as `pbns_enrollment_software_init_encode` and `pbns_enrollment_tpm_init_encode` write
it. -/
def initObject : Init :=
  match app.mode with
  | .software => ⟨app.context stageInit 0, app.token, [], [], [], [], app.identityCOSEKey,
      app.baselineDigest, app.hostNonce, flowSoftware, [], [], [], []⟩
  | .tpm => ⟨app.context stageInit 0, app.token, app.ekPublic,
      if 0 < app.ekCertificate.length then [app.ekCertificate] else [], app.akPublic, app.akName,
      app.identityCOSEKey, app.baselineDigest, app.hostNonce, flowTPM, [], [], [],
      app.identityTPMPublic⟩

/-- The checks of the two encoders. -/
def initRefused : Bool :=
  !commonValid (app.context stageInit 0) stageInit 0 || isZero app.token ||
    app.identityCOSEKey.length = 0 || decide (publicKeyMaxSize < app.identityCOSEKey.length) ||
    isZero app.baselineDigest ||
    (app.mode = .tpm &&
      (app.ekPublic.length = 0 || decide (publicKeyMaxSize < app.ekPublic.length) ||
        app.akPublic.length = 0 || decide (publicKeyMaxSize < app.akPublic.length) ||
        app.akName.length = 0 || decide (64 < app.akName.length) ||
        decide (publicKeyMaxSize < app.ekCertificate.length) ||
        app.identityTPMPublic.length = 0 ||
        decide (publicKeyMaxSize < app.identityTPMPublic.length)))

/-- The init that is sent, and the session that waits for the challenge; `initDigest` is the digest
of the init as it is sent. -/
def sendInit (initDigest : Digest32) : Except Status (Init × Session) := do
  rejectIf (app.initRefused = true) .errFormat
  let session ← start app.mode app.requestID app.hostNonce initDigest app.baselineDigest
  .ok (app.initObject, session)

/-- A status that is not success ends the run of the application. -/
def checked (result : Status × Session) : Except Status Session :=
  match result with
  | (.ok, session) => .ok session
  | (status, _) => .error status

/-- The challenge arrives. -/
def receiveChallenge (client : Library) (session : Session) (signedChallenge : Octets) :
    Except Status (Challenge × Session) := do
  let payload ← orReject .errFormat (client.extractSign1Payload signedChallenge app.signerKID)
  let challenge ← challengeDecode client payload app.signerKID
  rejectIf (challenge.flow ≠ app.flow) .errFormat
  let aad ← challengeAad challenge
  let verified ← orReject .errAuthentication (client.verify signedChallenge aad)
  rejectIf (verified ≠ payload) .errAuthentication
  let session ← checked (session.acceptChallenge challenge.hostNonce challenge.serverNonce
    challenge.initDigest true)
  .ok (challenge, session)

/-- The proof as the two encoders write it. -/
def proofObject (challenge : Challenge) (initDigest : Digest32) (evidence : TPMEvidence) : Proof :=
  match app.mode with
  | .software => ⟨app.context stageProof 1, challenge.serverNonce, initDigest, [], [], [],
      app.baselineDigest, app.baseline, flowSoftware⟩
  | .tpm => ⟨app.context stageProof 1, challenge.serverNonce, initDigest,
      evidence.activatedCredential, evidence.certifyAttestation, evidence.certifySignature,
      app.baselineDigest, app.baseline, flowTPM⟩

/-- The proof is made; the TPM has to answer with a secret of 32 octets. -/
def sendProof (session : Session) (challenge : Challenge) (initDigest : Digest32)
    (evidence : TPMEvidence) : Except Status (Proof × Session) := do
  rejectIf (app.mode = .tpm ∧ (challenge.credentialBlob.length = 0 ∨
    challenge.encryptedSecret.length = 0 ∨ evidence.activatedCredential.length ≠ 32 ∨
    evidence.certifyAttestation.length = 0 ∨ evidence.certifySignature.length = 0)) .errCrypto
  rejectIf (app.baseline.length = 0 ∨ baselineMaxSize < app.baseline.length) .errFormat
  let session ← checked (session.prepareProof challenge.serverNonce initDigest app.baselineDigest
    (decide (app.mode = .tpm)) true)
  .ok (app.proofObject challenge initDigest evidence, session)

/-- `expected_receipt_assurance` -/
def expectedAssurance : String :=
  match app.mode with
  | .tpm => if 0 < app.ekCertificate.length then "tpm-verified" else "tpm-unverified-ek"
  | .software => "software"

/-- The receipt and what the clock reads behind it, against `total_started`. -/
def receiptMatches (client : Library) (session : Session) (challenge : Challenge)
    (signedReceipt payload : Octets) (receipt : ReceiptObject) (started : ℕ) (finished : Option ℕ) :
    Bool :=
  receipt.context.requestID = app.requestID && receipt.context.nonce = app.hostNonce &&
    receipt.context.hostFingerprint = app.fingerprint && receipt.fingerprint = app.fingerprint &&
    receipt.baselineDigest = app.baselineDigest && receipt.assurance = app.expectedAssurance &&
    (match receiptAad receipt challenge.serverNonce with
      | .ok aad => client.verify signedReceipt aad = some payload
      | .error _ => false) &&
    (session.complete receipt.context.requestID challenge.serverNonce true).1 = .ok &&
    (match finished with
      | some finished => decide (started ≤ finished)
      | none => false)

/-- The receipt check: the long condition in front of "receipt verification". -/
def checkReceipt (client : Library) (session : Session) (challenge : Challenge)
    (signedReceipt : Octets) (started : ℕ) (finished : Option ℕ) : Bool :=
  match client.extractSign1Payload signedReceipt app.signerKID with
  | none => false
  | some payload =>
    match receiptDecode client payload app.signerKID with
    | .error _ => false
    | .ok receipt =>
      app.receiptMatches client session challenge signedReceipt payload receipt started finished

end Application

/-! ### What the steps of the application leave -/

section Steps

variable {app : Application} {client : Library}
variable {session : Session} {initDigest : Digest32} {challenge : Challenge} {next : Session}

theorem checked_ok {result : Status × Session} (h : Application.checked result = .ok session) : result = (.ok, session) := by
  obtain ⟨status, found⟩ := result
  cases status with
  | ok =>
    obtain rfl := Except.ok.inj h
    rfl
  | _ => exact absurd h (by simp [Application.checked])

theorem sendInit_ok {init : Init} (h : app.sendInit initDigest = .ok (init, session)) :
    isZero initDigest = false ∧ app.initRefused = false ∧ init = app.initObject ∧
      session = ⟨.init, app.mode, app.requestID, app.hostNonce, List.Vector.replicate 32 0#8,
        initDigest, app.baselineDigest⟩ := by
  obtain ⟨hrefused, h⟩ := rejectIf_bind_eq_ok.mp h
  obtain ⟨started, hstart, h⟩ := bind_eq_ok.mp h
  obtain ⟨rfl, rfl⟩ := Prod.mk.inj (Except.ok.inj h)
  obtain ⟨hzero, hstart⟩ := rejectIf_bind_eq_ok.mp hstart
  simp only [not_or, Bool.not_eq_true] at hzero
  exact ⟨hzero.2.2.1, by simpa using hrefused, rfl, (Except.ok.inj hstart).symm⟩

/-- What the application knows of a challenge it has accepted. -/
structure Received (app : Application) (client : Library) (signedChallenge : Octets)
    (challenge : Challenge) : Prop where
  decoded : ∃ payload, client.extractSign1Payload signedChallenge app.signerKID = some payload ∧
    client.decodeChallenge payload = some challenge
  keyID : challenge.context.keyID = app.signerKID
  keyIDSize : app.signerKID.length ≠ 0 ∧ app.signerKID.length ≤ keyIDMaxSize
  nonce : isZero challenge.serverNonce = false
  aadSize : (challengeExternalAAD challenge).length ≤ aadBufferSize

theorem challengeDecode_ok {encoded keyID : Octets}
    (h : challengeDecode client encoded keyID = .ok challenge) :
    client.decodeChallenge encoded = some challenge ∧ challenge.context.keyID = keyID ∧
      keyID.length ≠ 0 ∧ keyID.length ≤ keyIDMaxSize := by
  simp only [challengeDecode, decodeInputs, bind_eq_ok, rejectIf_eq_ok, exists_const, orReject_eq_ok, not_or,
    Nat.not_lt, not_not] at h
  obtain ⟨⟨-, -, hkeyID⟩, found, hdecode, -, hkey, h⟩ := h
  obtain rfl := Except.ok.inj h
  exact ⟨hdecode, hkey, hkeyID⟩

theorem acceptChallenge_ok {hostNonce serverNonce : Digest32}
    (h : session.acceptChallenge hostNonce serverNonce initDigest true = (.ok, next)) :
    isZero serverNonce = false ∧
      next = { session with serverNonce, phase := .challengeVerified } := by
  rw [Session.acceptChallenge] at h
  split_ifs at h with hzero
  · cases h
  · cases h
  · exact absurd (congrArg Prod.fst h) (by simp [Session.failAuthentication])
  · exact ⟨by simpa using hzero, (Prod.mk.inj h).2.symm⟩

theorem receiveChallenge_ok {signedChallenge : Octets}
    (h : app.receiveChallenge client session signedChallenge = .ok (challenge, next)) :
    Received app client signedChallenge challenge ∧
      next = { session with
        serverNonce := challenge.serverNonce
        phase := .challengeVerified } := by
  simp only [Application.receiveChallenge, challengeAad, fitted, bind_eq_ok, rejectIf_eq_ok, exists_const, orReject_eq_ok,
    Nat.not_lt] at h
  obtain ⟨payload, hpayload, found, hfound, -, aad, ⟨-, hfits, -⟩, verified, -, -, accepted, haccepted, h⟩ := h
  obtain ⟨rfl, rfl⟩ := Prod.mk.inj (Except.ok.inj h)
  obtain ⟨hdecode, hkey, hsize⟩ := challengeDecode_ok hfound
  obtain ⟨hnonce, hnext⟩ := acceptChallenge_ok (checked_ok haccepted)
  exact ⟨⟨⟨payload, hpayload, hdecode⟩, hkey, hsize, hnonce, hfits⟩, hnext⟩

theorem sendProof_ok {evidence : TPMEvidence} {proof : Proof}
    (h : app.sendProof session challenge initDigest evidence = .ok (proof, next)) :
    proof = app.proofObject challenge initDigest evidence ∧
      next = { session with phase := .proofReady } := by
  obtain ⟨-, h⟩ := rejectIf_bind_eq_ok.mp h
  obtain ⟨-, h⟩ := rejectIf_bind_eq_ok.mp h
  obtain ⟨ready, hready, h⟩ := bind_eq_ok.mp h
  obtain ⟨rfl, rfl⟩ := Prod.mk.inj (Except.ok.inj h)
  refine ⟨rfl, ?_⟩
  have hprepare := checked_ok hready
  rw [Session.prepareProof] at hprepare
  split_ifs at hprepare
  · cases hprepare
  · exact absurd (congrArg Prod.fst hprepare) (by simp [Session.failAuthentication])
  · exact (Prod.mk.inj hprepare).2.symm

end Steps

/-! ### Both ends -/

/-- The text of an assurance in a receipt. -/
def assuranceText : Assurance → String
  | .tpmVerified => "tpm-verified"
  | .tpmUnverified => "tpm-unverified-ek"
  | .software => "software"
  | .other text => text

/-- A receipt of the gateway, as the application decodes it. -/
def receiptObject (receipt : Receipt) : ReceiptObject :=
  ⟨receipt.context, receipt.fingerprint, assuranceText receipt.assurance, receipt.baselineDigest,
    receipt.enrolledAtUnix, receipt.keyID⟩

section Outcome

variable {ρ : Type}

/-- The two ends have one format and one key pair: what the gateway signs, the application verifies
and decodes to the same object. -/
structure Documented (lib : Libraries ρ) (client : Library) : Prop where
  challenge : ∀ challenge aad salt signed payload,
    lib.signChallenge challenge aad salt = .ok signed →
    client.extractSign1Payload signed challenge.context.keyID = some payload →
    client.decodeChallenge payload = some challenge
  receipt : ∀ receipt aad salt signed, lib.signReceipt receipt aad salt = .ok signed →
    receipt.context.keyID = receipt.keyID → receipt.keyID.length ≤ keyIDMaxSize →
    ∃ payload, client.extractSign1Payload signed receipt.keyID = some payload ∧
      payload.length ≠ 0 ∧ payload.length ≤ objectMaxSize ∧
      client.decodeReceipt payload = some (receiptObject receipt) ∧
      client.verify signed aad = some payload

/-- A run in which the messages arrive unchanged and the host is stored: the init at a `Begin`, its
challenge at the application, the proof at a `Complete` that finds the session of that `Begin` and
returns a receipt. -/
structure Exchange (lib : Libraries ρ) (client : Library) (service : Service ρ) (app : Application)
    (steps : List Step) (begun : BeginCall) (call : CompleteCall) (evidence : TPMEvidence)
    (challenge : Challenge) (final : Session) (signedReceipt : Octets) : Prop where
  exchanged : ∃ plaintext envelope first second signedChallenge proof prepared pending session
      submission,
    app.sendInit (lib.sha256 plaintext) = .ok (app.initObject, first) ∧
    openEnvelope lib service begun.envelope = .ok (envelope, plaintext) ∧
    lib.decodeInit plaintext = some app.initObject ∧
    Opened lib service steps session begun prepared pending ∧
    lib.signChallenge prepared.challenge (challengeExternalAAD prepared.challenge) begun.salt
      = .ok signedChallenge ∧
    app.receiveChallenge client first signedChallenge = .ok (challenge, second) ∧
    app.sendProof second challenge (lib.sha256 plaintext) evidence = .ok (proof, final) ∧
    readSubmission lib service call.envelope = .ok submission ∧ submission.proof = proof ∧
    (run lib service steps .start).sessions submission.envelope.requestID = some session ∧
    (complete lib service call (run lib service steps .start)).1 = .ok signedReceipt

/-- The certificate of the endorsement key is good: it is for that key, and leads to a root of the
gateway. -/
def CertificateVerifies (lib : Libraries ρ) (service : Service ρ) (app : Application) (now : Time) :
    Prop :=
  now ≠ Time.zero ∧ app.ekCertificate.length ≤ maximumPublicSize ∧
    ∃ roots certificate, service.ekRoots = some roots ∧
      lib.parseCertificate app.ekCertificate = some certificate ∧
      certificate.publicKey = parseEKPublic lib app.ekPublic ∧
      lib.verifyCertificate roots certificate [] now = true

variable {lib : Libraries ρ} {client : Library} {service : Service ρ} {app : Application}

variable {now : Time} {call : BeginCall} {plaintext : Octets} {identityPublic : PublicKey}
   {serverNonce : Digest32} {prepared : Prepared} {init : Init}

/-- The verdict on a chain of one certificate. -/
theorem chainVerifies_one {ekPublic : PublicKey}
    (hkey : parseEKPublic lib app.ekPublic = some ekPublic) (hsome : app.ekCertificate ≠ []) :
    chainVerifies lib ekPublic [app.ekCertificate] service.ekRoots now = true ↔
      CertificateVerifies lib service app now := by
  rw [CertificateVerifies, chainVerifies.eq_def, hkey]
  cases service.ekRoots with
  | none => simp
  | some roots =>
    by_cases htime : now = Time.zero
    · simp [htime]
    by_cases hsize : maximumPublicSize < app.ekCertificate.length
    · simp [htime, parseChain, hsize, maximumCertCount, Nat.not_le.mpr hsize]
    cases hparse : lib.parseCertificate app.ekCertificate with
    | none => simp [htime, parseChain, hsize, hparse, hsome, maximumCertCount]
    | some certificate =>
      simp [htime, parseChain, hsize, hparse, hsome, maximumCertCount, Nat.not_lt.mp hsize]

/-- **The assurance, decided twice.**  The gateway and the application agree on it, unless the
application has sent a certificate that is not good. -/
theorem assurance_agrees
    (h : Checked lib service call plaintext app.initObject identityPublic serverNonce prepared) :
    assuranceText prepared.session.assurance = app.expectedAssurance ↔
      (app.mode = .tpm → app.ekCertificate ≠ [] → CertificateVerifies lib service app call.now) := by
  cases hmode : app.mode with
  | software =>
    have hflow : app.initObject.flow = flowSoftware ∧
        softwareInitFieldsEmpty app.initObject = true := by
      simp [Application.initObject, hmode, softwareInitFieldsEmpty]
    rw [h.assurance_software.mpr hflow]
    simp [assuranceText, Application.expectedAssurance, hmode]
  | tpm =>
    rcases addEvidence_ok h.evidence with ⟨hsoftware, -, -⟩ | ⟨-, activation, assurance, digest, -, -,
      hchain, rfl⟩
    · exact absurd hsoftware (by simp [Application.initObject, hmode, flowTPM, flowSoftware])
    obtain ⟨ekPublic, hkey, hverdict⟩ := Option.bind_eq_some_iff.mp hchain
    simp only [Application.initObject, hmode] at hkey hverdict
    show assuranceText assurance = app.expectedAssurance ↔ _
    by_cases hempty : app.ekCertificate = []
    · -- no certificate is sent, so the chain is empty
      have hnone : chainVerifies lib ekPublic [] service.ekRoots call.now = false := by
        rw [chainVerifies.eq_def]
        cases service.ekRoots <;> simp
      simp only [hempty, List.length_nil, Nat.lt_irrefl, if_false, hnone, Bool.false_eq_true] at hverdict
      obtain ⟨rfl, -⟩ := Prod.mk.inj (Option.some.inj hverdict)
      simp [assuranceText, Application.expectedAssurance, hmode, hempty]
    · have hlength : 0 < app.ekCertificate.length := List.length_pos_of_ne_nil hempty
      have hone : chainVerifies lib ekPublic [app.ekCertificate] service.ekRoots call.now = true ↔
        CertificateVerifies lib service app call.now := chainVerifies_one hkey hempty
      simp only [hlength, if_true] at hverdict
      simp only [Application.expectedAssurance, hmode, hlength, if_true, ne_eq, hempty,
        not_false_eq_true, forall_const]
      rw [← hone]
      split at hverdict
      · rename_i hverified
        obtain ⟨rfl, -⟩ := Prod.mk.inj (Option.some.inj hverdict)
        simp [assuranceText, hverified]
      · rename_i hverified
        obtain ⟨rfl, -⟩ := Prod.mk.inj (Option.some.inj hverdict)
        simp [assuranceText, hverified]

theorem challengeExternalAAD_length (challenge : Challenge) :
    (challengeExternalAAD challenge).length = 140 + challenge.context.keyID.length := by
  have hprefix : (ascii "PBNS-ENROLLMENT-CHALLENGE-v1").length = 28 := by decide
  simp only [challengeExternalAAD, List.length_append, hprefix, List.Vector.toList_length]

theorem receiptExternalAAD_length (receipt : Receipt) (serverNonce : Digest32) :
    (receiptExternalAAD receipt serverNonce).length = 138 + receipt.keyID.length := by
  have hprefix : (ascii "PBNS-ENROLLMENT-RECEIPT-v1").length = 26 := by decide
  simp only [receiptExternalAAD, List.length_append, hprefix, List.Vector.toList_length]

variable (h : Checked lib service call plaintext init identityPublic serverNonce prepared)

include h

/-- The challenge that goes with a session. -/
theorem checked_challenge :
    prepared.challenge.context.keyID = service.keyID ∧
      prepared.challenge.serverNonce = serverNonce := by
  rcases addEvidence_ok h.evidence with ⟨-, -, rfl⟩ | ⟨-, activation, assurance, digest, -, -, -, rfl⟩
  · exact ⟨rfl, rfl⟩
  · exact ⟨rfl, rfl⟩

omit h in
theorem initObject_fields (app : Application) :
    app.initObject.context = app.context stageInit 0 ∧ app.initObject.hostNonce = app.hostNonce ∧
      app.initObject.initialEvidenceDigest = app.baselineDigest ∧
      app.initObject.identityCOSEKey = app.identityCOSEKey := by
  cases hmode : app.mode <;> simp [Application.initObject, hmode]

omit h in
/-- The receipt for a session, at the application: everything in it is as expected, but for the
assurance. -/
theorem receiptMatches_receiptOf
    (h : Checked lib service call plaintext app.initObject identityPublic serverNonce prepared)
    {challenge : Challenge} (hnonce : challenge.serverNonce = serverNonce) {final : Session}
    (hfinal : (final.complete app.requestID serverNonce true).1 = .ok)
    {signedReceipt payload aad : Octets}
    (haad : receiptAad (receiptObject (receiptOf service prepared.session now)) serverNonce = .ok aad)
    (hverify : client.verify signedReceipt aad = some payload) {started finished : ℕ}
    (hclock : started ≤ finished) :
    app.receiptMatches client final challenge signedReceipt payload
        (receiptObject (receiptOf service prepared.session now)) started (some finished) = true ↔
      assuranceText prepared.session.assurance = app.expectedAssurance := by
  obtain ⟨-, hrequestID, hhostNonce, -, -, hbaseline, -, -, -, hfingerprint⟩ := h.session_eq
  obtain ⟨hcontext, hinitNonce, hinitBaseline, -⟩ := initObject_fields app
  have hprint : prepared.session.fingerprint = app.fingerprint := by
    rw [hfingerprint, h.fingerprint, hcontext]
    rfl
  have hrequest : prepared.session.requestID = app.requestID := by
    rw [hrequestID, hcontext]
    rfl
  rw [Application.receiptMatches, hnonce, haad]
  simp only [receiptObject, receiptOf, hrequest, hprint, hhostNonce.trans hinitNonce,
    hbaseline.trans hinitBaseline, hverify, hfinal, hclock, decide_true, Bool.and_true,
    Bool.true_and, decide_eq_true_eq]

/-- The assurance of a session is one of the three. -/
theorem checked_assurance : prepared.session.assurance.valid = true := by
  rcases addEvidence_ok h.evidence with ⟨-, -, rfl⟩ | ⟨-, activation, assurance, digest, -, -, hchain,
    rfl⟩
  · rfl
  · obtain ⟨ekPublic, -, hverdict⟩ := Option.bind_eq_some_iff.mp hchain
    show assurance.valid = true
    split at hverdict
    · obtain ⟨rfl, -⟩ := Prod.mk.inj (Option.some.inj hverdict)
      rfl
    · obtain ⟨rfl, -⟩ := Prod.mk.inj (Option.some.inj hverdict)
      rfl

omit h in
theorem assuranceText_size {assurance : Assurance} (h : assurance.valid = true) :
    0 < (assuranceText assurance).utf8ByteSize ∧ (assuranceText assurance).utf8ByteSize ≤ 64 := by
  cases assurance with
  | other text => exact absurd h (by simp [Assurance.valid])
  | tpmVerified => decide
  | tpmUnverified => decide
  | software => decide

/-- The receipt for a session is well formed at the application. -/
theorem receiptValid_receiptOf (htime : 0 < Time.unix now) (hkey : service.keyID.length ≠ 0)
    (hsize : service.keyID.length ≤ keyIDMaxSize) :
    commonDecoded (receiptObject (receiptOf service prepared.session now)).context = true ∧
      receiptValid (receiptObject (receiptOf service prepared.session now)) = true := by
  obtain ⟨-, hrequestID, hhostNonce, -, -, hbaseline, -, -, -, hfingerprint⟩ := h.session_eq
  obtain ⟨envelope, -, hvalid⟩ := h.opened
  obtain ⟨htext, htext'⟩ := assuranceText_size (checked_assurance h)
  simp only [validInit, validContext, Bool.and_eq_true, Bool.not_eq_true', decide_eq_true_eq]
    at hvalid
  have hnonce : isZero init.hostNonce = false := by
    have hsame : init.context.nonce = init.hostNonce := by
      have hcontext : init.context.nonce = envelope.hostNonce := by tauto
      have hinit : init.hostNonce = envelope.hostNonce := by tauto
      exact hcontext.trans hinit.symm
    rw [← hsame]
    tauto
  have hprint : isZero prepared.session.fingerprint = false := by
    rw [hfingerprint, h.fingerprint]
    tauto
  have hrequest : isZero init.context.requestID = false := by tauto
  have hdigest : isZero init.initialEvidenceDigest = false := by tauto
  simp only [receiptObject, receiptOf, commonDecoded, receiptValid, commonValid, hrequestID,
    hhostNonce, hbaseline, hprint, hrequest, hnonce, hdigest, htext, htext', htime, hsize,
    Nat.pos_of_ne_zero hkey, decide_true, Bool.not_false, Bool.and_true, and_self]

omit h

/-- The application decodes the receipt of a session it has the challenge of. -/
theorem receiptDecode_receiptOf {payload : Octets}
    (hvalid : commonDecoded (receiptObject (receiptOf service prepared.session now)).context = true ∧
      receiptValid (receiptObject (receiptOf service prepared.session now)) = true)
    (hkey : service.keyID.length ≠ 0) (hsize : service.keyID.length ≤ keyIDMaxSize)
    (hpayload : payload.length ≠ 0) (hpayloadSize : payload.length ≤ objectMaxSize)
    (hdecode : client.decodeReceipt payload
      = some (receiptObject (receiptOf service prepared.session now))) :
    receiptDecode client payload service.keyID
      = .ok (receiptObject (receiptOf service prepared.session now)) := by
  have hinputs : decodeInputs payload service.keyID = .ok () := by
    rw [decodeInputs, rejectIf_eq_ok]
    simp only [not_or, Nat.not_lt]
    exact ⟨hpayload, hpayloadSize, hkey, hsize⟩
  rw [receiptDecode, hinputs, hdecode]
  simp only [bind_ok, orReject]
  rw [rejectIf_bind_of_not (by simp [hvalid]), rejectIf_bind_of_not]
  simp [receiptObject, receiptOf]

end Outcome

/-! ### A host with a TPM -/

def sampleApplication : Application where
  mode := .tpm
  recipientKID := [7#8]
  signerKID := [8#8]
  requestID := List.Vector.replicate 16 1#8
  hostNonce := List.Vector.replicate 32 2#8
  fingerprint := sampleHash (sampleKey 1#8)
  token := List.Vector.replicate 32 1#8
  identityCOSEKey := sampleKey 1#8
  baseline := [1#8]
  baselineDigest := sampleHash [1#8]
  ekPublic := [2#8]
  akPublic := [3#8]
  akName := [4#8]
  ekCertificate := [5#8]
  identityTPMPublic := [6#8]

def sampleEvidence : TPMEvidence := ⟨List.replicate 32 5#8, [14#8], [15#8]⟩

def sampleChallenge : Challenge :=
  ⟨⟨domain, 1, Enrollment.serviceEnrollment, List.Vector.replicate 16 1#8,
      sampleHash (sampleKey 1#8), List.Vector.replicate 32 2#8, stageChallenge, 0, [8#8]⟩,
    List.Vector.replicate 32 2#8, List.Vector.replicate 32 3#8, sampleHash [1#8, 1#8, 0#8], [12#8],
    [13#8], flowTPM⟩

/-- The receipt of the host, with an assurance. -/
def sampleReceipt (assurance : Assurance) : Receipt :=
  ⟨⟨domain, 1, Enrollment.serviceEnrollment, List.Vector.replicate 16 1#8,
      sampleHash (sampleKey 1#8), List.Vector.replicate 32 2#8, stageReceipt, 2, [8#8]⟩,
    sampleHash (sampleKey 1#8), assurance, sampleHash [1#8], 2, [8#8]⟩

/-- All keys are the base point, and all public areas those of an attestation key.  The libraries
sign the challenge and the two receipts. -/
def sampleTPM : Libraries Unit :=
  { sampleLibraries with
    decodeInit := fun _ => some sampleApplication.initObject
    decodeSign1Proof := fun _ => some (sampleApplication.proofObject sampleChallenge
      (sampleHash [1#8, 1#8, 0#8]) sampleEvidence)
    signChallenge := fun challenge _ _ =>
      if challenge = sampleChallenge then .ok [9#8] else .error .authentication
    signReceipt := fun receipt _ _ =>
      if receipt = sampleReceipt .tpmVerified then .ok [10#8]
      else if receipt = sampleReceipt .tpmUnverified then .ok [11#8]
      else .error .authentication
    parsePKIXPublicKey := fun _ => some ⟨Cbor.bigEndian baseX, Cbor.bigEndian baseY⟩
    parseCertificate := fun octets =>
      some ⟨some ⟨Cbor.bigEndian baseX, Cbor.bigEndian baseY⟩, octets⟩
    verifyCertificate := fun _ _ _ _ => true
    decodePublic := fun _ => some ⟨algECC, algSHA256, flagSignerDefault, [],
      some ⟨none, false, curveNISTP256, some (algECDSA, algSHA256), baseX, baseY⟩⟩
    encodePublic := fun _ => some [6#8]
    publicKey := fun _ => some ⟨Cbor.bigEndian baseX, Cbor.bigEndian baseY⟩
    name := fun _ => some (List.replicate 32 1#8, [4#8])
    generateCredential := fun _ _ _ => some ([12#8], [13#8])
    verifyCertification := fun _ _ _ _ => true
    extraData := fun _ => some (sampleHash (sampleHash [1#8]).toList).toList }

/-- A signed message is its own payload. -/
def sampleClient : Library where
  extractSign1Payload message _ := some message
  decodeChallenge _ := some sampleChallenge
  decodeReceipt payload :=
    some (receiptObject (sampleReceipt (if payload = [10#8] then .tpmVerified else .tpmUnverified)))
  verify message _ := some message

theorem sampleClient_documented : Documented sampleTPM sampleClient where
  challenge := by
    intro challenge aad salt signed payload hsigned hextract
    have hif : (if challenge = sampleChallenge then Except.ok [9#8] else .error .authentication)
      = (Except.ok signed : Except Enrollment.Error Octets) := hsigned
    split_ifs at hif with hsame
    rw [hsame]
    rfl
  receipt := by
    intro receipt aad salt signed hsigned _ _
    have hif : (if receipt = sampleReceipt .tpmVerified then Except.ok [10#8]
      else if receipt = sampleReceipt .tpmUnverified then .ok [11#8] else .error .authentication)
      = (Except.ok signed : Except Enrollment.Error Octets) := hsigned
    split_ifs at hif with hverified hunverified
    · obtain rfl := Except.ok.inj hif
      exact ⟨_, rfl, by decide, by decide, by rw [hverified]; rfl, rfl⟩
    · obtain rfl := Except.ok.inj hif
      exact ⟨_, rfl, by decide, by decide, by rw [hunverified]; rfl, rfl⟩

/-- The gateway, with or without a root certificate. -/
def sampleGateway (roots : Option Unit) : Service Unit := ⟨[7#8], [8#8], true, roots⟩

def sampleTPMBegin : BeginCall :=
  ⟨[1#8, 1#8, 0#8], some (List.Vector.replicate 32 3#8), some (List.Vector.replicate 32 5#8),
    1000000000, 1000000000, 1000000000, fun _ => some (List.Vector.replicate 16 1#8), 0⟩

/-- The session of the application in a phase. -/
def sampleSession (phase : Phase) (serverNonce : Digest32) : Session :=
  ⟨phase, .tpm, List.Vector.replicate 16 1#8, List.Vector.replicate 32 2#8, serverNonce,
    sampleHash [1#8, 1#8, 0#8], sampleHash [1#8]⟩

/-- The whole exchange, whatever the gateway thinks of the certificate. -/
theorem sampleExchange {roots : Option Unit} {signedReceipt : Octets}
    (hbegin : (begin sampleTPM (sampleGateway roots) sampleTPMBegin
      (run sampleTPM (sampleGateway roots) [sampleCreate 1#8] .start)).1 = .ok [9#8])
    (hrequest : (prepareBegin sampleTPM (sampleGateway roots) sampleTPMBegin).toOption.map
      (fun prepared => prepared.session.requestID) = some (List.Vector.replicate 16 1#8))
    (hcomplete : (complete sampleTPM (sampleGateway roots) (sampleComplete 1#8 1#8)
      (run sampleTPM (sampleGateway roots) [sampleCreate 1#8, .begin sampleTPMBegin] .start)).1
      = .ok signedReceipt) :
    Exchange sampleTPM sampleClient (sampleGateway roots) sampleApplication
      [sampleCreate 1#8, .begin sampleTPMBegin] sampleTPMBegin (sampleComplete 1#8 1#8)
      sampleEvidence sampleChallenge (sampleSession .proofReady (List.Vector.replicate 32 3#8))
      signedReceipt := by
  obtain ⟨prepared, pending, hopened, hsigned, hsession, -⟩ := begin_opens hbegin
  rw [hopened.ready] at hrequest
  have hid : prepared.session.requestID = List.Vector.replicate 16 1#8 := Option.some.inj hrequest
  rw [hid] at hsession
  exact ⟨[1#8, 1#8, 0#8], ⟨List.Vector.replicate 16 1#8, List.Vector.replicate 32 2#8, [7#8],
      [1#8, 1#8, 0#8]⟩, sampleSession .init (List.Vector.replicate 32 0#8),
    sampleSession .challengeVerified (List.Vector.replicate 32 3#8), [9#8], _, prepared, pending, _,
    ⟨⟨List.Vector.replicate 16 1#8, List.Vector.replicate 32 2#8, [7#8], [1#8, 1#8, 1#8]⟩,
      [1#8, 1#8, 1#8], _⟩, by decide +kernel, rfl, rfl, hopened, hsigned, by decide +kernel, rfl, rfl,
    rfl, hsession, hcomplete⟩

end Pbns.EnrollmentClient
