/-
The enrollment service of the gateway (`gateway/internal/enrollment`): `Begin` checks what a host
sends and opens a session, `Complete` checks the proof against the session and stores the host.

The work before the lock of `Begin` touches nothing that is shared (`prepareBegin`); the rest of
it, and all of `Complete` behind the session lookup, runs under one lock.  So a run of the service
is a sequence of calls, whichever connections they came from.

The libraries (COSE, CBOR, TPM structures, X.509) are parameters.

* `prepareBegin_ok`, `checkProof_ok` — what the checks leave;
* `begin_cases`, `complete_cases` — everything a call can do.
-/
import Pbns.HostIndependence
import Pbns.HostKey

namespace Pbns.Enrollment

open Octets Model Guard

/-! ### Messages -/

inductive Error
  | invalid
  | decryption
  | authentication
  | transcript
  | state
  /-- an error of the store, passed on -/
  | store (error : Store.Error)
  deriving DecidableEq

def domain : String := "PBNS-ENROLLMENT-v1"
def serviceEnrollment : ℕ := 4
def stageInit : ℕ := 1
def stageChallenge : ℕ := 2
def stageProof : ℕ := 3
def stageReceipt : ℕ := 4
def flowSoftware : ℕ := 1
def flowTPM : ℕ := 2
def maximumEnvelopeSize : ℕ := 65536
def maximumBaselineSize : ℕ := 60 * 1024
def maximumCertCount : ℕ := 8

structure CommonContext where
  domain : String
  version : ℕ
  service : ℕ
  requestID : Identifier16
  hostFingerprint : Digest32
  nonce : Digest32
  stage : ℕ
  sequence : ℕ
  keyID : Octets
  deriving DecidableEq

structure Init where
  context : CommonContext
  token : Digest32
  ekPublic : Octets
  ekCertificateChain : List Octets
  akPublic : Octets
  akName : Octets
  identityCOSEKey : Octets
  initialEvidenceDigest : Digest32
  hostNonce : Digest32
  flow : ℕ
  akCreateData : Octets
  akCreateAttestation : Octets
  akCreateSignature : Octets
  identityTPMPublic : Octets
  deriving DecidableEq

structure Challenge where
  context : CommonContext
  hostNonce : Digest32
  serverNonce : Digest32
  initDigest : Digest32
  credentialBlob : Octets
  encryptedSecret : Octets
  flow : ℕ
  deriving DecidableEq

structure Proof where
  context : CommonContext
  serverNonce : Digest32
  initDigest : Digest32
  activatedCredential : Octets
  certifyAttestation : Octets
  certifySignature : Octets
  baselineDigest : Digest32
  baselineEvidence : Octets
  flow : ℕ
  deriving DecidableEq

structure Receipt where
  context : CommonContext
  fingerprint : Digest32
  assurance : Assurance
  baselineDigest : Digest32
  enrolledAtUnix : Int
  keyID : Octets
  deriving DecidableEq

structure EncryptedEnvelope where
  requestID : Identifier16
  hostNonce : Digest32
  recipientKID : Octets
  ciphertext : Octets
  deriving DecidableEq

/-- The octets of a constant of the source. -/
def ascii (text : String) : Octets := text.toList.map fun c => BitVec.ofNat 8 c.toNat

def envelopeAAD (requestID : Identifier16) (hostNonce : Digest32) (keyID : Octets) : Octets :=
  ascii "PBNS-ENROLLMENT-ENVELOPE-v1" ++ requestID.toList ++ hostNonce.toList ++ keyID

def proofExternalAAD (proof : Proof) : Octets :=
  ascii "PBNS-ENROLLMENT-PROOF-v1" ++ proof.context.requestID.toList ++ proof.context.nonce.toList
    ++ proof.serverNonce.toList ++ proof.initDigest.toList ++ proof.context.keyID

def challengeExternalAAD (challenge : Challenge) : Octets :=
  ascii "PBNS-ENROLLMENT-CHALLENGE-v1" ++ challenge.context.requestID.toList
    ++ challenge.hostNonce.toList ++ challenge.serverNonce.toList ++ challenge.initDigest.toList
    ++ challenge.context.keyID

def receiptExternalAAD (receipt : Receipt) (serverNonce : Digest32) : Octets :=
  ascii "PBNS-ENROLLMENT-RECEIPT-v1" ++ receipt.context.requestID.toList
    ++ receipt.context.nonce.toList ++ serverNonce.toList ++ receipt.fingerprint.toList
    ++ receipt.keyID

def validContext (context : CommonContext) (stage sequence : ℕ) : Bool :=
  context.domain = domain && context.version = 1 && context.service = serviceEnrollment &&
    !isZero context.requestID && !isZero context.hostFingerprint && !isZero context.nonce &&
    context.stage = stage && context.sequence = sequence && decide (0 < context.keyID.length) &&
    decide (context.keyID.length ≤ 64)

def validInit (init : Init) (envelope : EncryptedEnvelope) (recipientKID : Octets) : Bool :=
  validContext init.context stageInit 0 && init.context.requestID = envelope.requestID &&
    init.context.nonce = envelope.hostNonce && init.hostNonce = envelope.hostNonce &&
    !isZero init.token && !isZero init.initialEvidenceDigest &&
    decide (0 < init.identityCOSEKey.length) &&
    decide (init.identityCOSEKey.length ≤ maximumPublicSize) &&
    (init.flow = flowSoftware || init.flow = flowTPM) && init.context.keyID = recipientKID &&
    decide (init.ekCertificateChain.length ≤ maximumCertCount)

def softwareInitFieldsEmpty (init : Init) : Bool :=
  init.ekPublic.length = 0 && init.ekCertificateChain.length = 0 && init.akPublic.length = 0 &&
    init.akName.length = 0 && init.akCreateData.length = 0 &&
    init.akCreateAttestation.length = 0 && init.akCreateSignature.length = 0 &&
    init.identityTPMPublic.length = 0

def validProofShape (proof : Proof) : Bool :=
  validContext proof.context stageProof 1 && !isZero proof.serverNonce &&
    !isZero proof.initDigest && !isZero proof.baselineDigest &&
    decide (0 < proof.baselineEvidence.length) &&
    decide (proof.baselineEvidence.length ≤ maximumBaselineSize) &&
    (proof.flow = flowSoftware || proof.flow = flowTPM)

/-! ### Libraries -/

structure ECCParameters where
  /-- algorithm, key bits and mode -/
  symmetric : Option (ℕ × ℕ × ℕ)
  kdf : Bool
  curveID : ℕ
  /-- algorithm and hash -/
  sign : Option (ℕ × ℕ)
  xRaw : Octets
  yRaw : Octets
  deriving DecidableEq

/-- `tpm2.Public`, as far as the gateway reads it. -/
structure TPMPublic where
  type : ℕ
  nameAlg : ℕ
  attributes : ℕ
  authPolicy : Octets
  eccParameters : Option ECCParameters
  deriving DecidableEq

structure Certificate where
  /-- the key, when it is one on P-256 -/
  publicKey : Option PublicKey
  raw : Octets
  deriving DecidableEq

/-- The libraries of the service; `ρ` are the pools of root certificates.  What a signature adds
by chance is told apart by a number. -/
structure Libraries (ρ : Type) extends Store.Libraries where
  baseline : Baseline.Cbor
  /-- canonical decoders -/
  decodeEnvelope : Octets → Option EncryptedEnvelope
  decodeInit : Octets → Option Init
  /-- the payload of a canonical COSE_Sign1 message, as a proof -/
  decodeSign1Proof : Octets → Option Proof
  decrypt : (ciphertext aad : Octets) → Option Octets
  verifySign1 : (message aad : Octets) → PublicKey → Bool
  signChallenge : Challenge → (aad : Octets) → ℕ → Except Error Octets
  signReceipt : Receipt → (aad : Octets) → ℕ → Except Error Octets
  parsePKIXPublicKey : Octets → Option PublicKey
  parseCertificate : Octets → Option Certificate
  /-- `leaf.Verify` against roots, with intermediates, at an instant -/
  verifyCertificate : ρ → Certificate → List Certificate → Time → Bool
  decodePublic : Octets → Option TPMPublic
  encodePublic : TPMPublic → Option Octets
  /-- the key of a public area, when it is a key on P-256 -/
  publicKey : TPMPublic → Option PublicKey
  /-- the digest value in the name of a public area, and the encoded name -/
  name : TPMPublic → Option (Octets × Octets)
  generateCredential : (akName : Octets) → PublicKey → Digest32 → Option (Octets × Octets)
  /-- `CertificationParameters.Verify` with the attestation key -/
  verifyCertification : (publicArea attestation signature : Octets) → PublicKey → Bool
  /-- the extra data of attestation data -/
  extraData : Octets → Option Octets

/-! ### TPM evidence -/

def algSHA256 : ℕ := 0x000b
def algECC : ℕ := 0x0023
def algECDSA : ℕ := 0x0018
def algAES : ℕ := 0x0006
def algCFB : ℕ := 0x0043
def curveNISTP256 : ℕ := 0x0003
/-- sign, restricted, fixed TPM and parent, sensitive data origin, user with auth -/
def flagSignerDefault : ℕ := 0x00050072
/-- fixed TPM and parent, sensitive data origin, user with auth, no DA, restricted, decrypt -/
def flagEndorsement : ℕ := 0x00030472

def validAKTPMPublic (area : TPMPublic) : Bool :=
  match area.eccParameters with
  | none => false
  | some parameters =>
    area.type = algECC && area.nameAlg = algSHA256 && area.attributes = flagSignerDefault &&
      area.authPolicy.length = 0 && parameters.symmetric = none && !parameters.kdf &&
      parameters.curveID = curveNISTP256 && parameters.sign = some (algECDSA, algSHA256) &&
      parameters.xRaw.length = 32 && parameters.yRaw.length = 32

def validEKTPMPublic (area : TPMPublic) : Bool :=
  match area.eccParameters with
  | none => false
  | some parameters =>
    area.type = algECC && area.nameAlg = algSHA256 && area.attributes = flagEndorsement &&
      area.authPolicy.length = 0 && parameters.curveID = curveNISTP256 && parameters.sign = none &&
      !parameters.kdf && parameters.symmetric = some (algAES, 128, algCFB)

def validEKPublic (key : PublicKey) : Bool := isOnCurve key.x key.y

section Evidence

variable {ρ : Type} (lib : Libraries ρ)

/-- A public area, bare or behind its length. -/
def decodeTPMPublic (encoded : Octets) : Option TPMPublic :=
  match lib.decodePublic encoded with
  | some area => some area
  | none =>
    if encoded.length < 3 ∨ Cbor.bigEndian (encoded.take 2) ≠ encoded.length - 2 then none
    else lib.decodePublic (encoded.drop 2)

def parseEKPublic (encoded : Octets) : Option PublicKey :=
  match lib.parsePKIXPublicKey encoded with
  | some key => if validEKPublic key = true then some key else ofArea
  | none => ofArea
where
  ofArea : Option PublicKey := do
    let area ← decodeTPMPublic lib encoded
    if validEKTPMPublic area = false then none
    else
      let key ← lib.publicKey area
      if validEKPublic key = false then none else some key

structure ActivationChallenge where
  secret : Digest32
  credentialBlob : Octets
  encryptedSecret : Octets

/-- `Generate` of the activator, with the secret it draws. -/
def generate (drawn : Option Digest32) (init : Init) : Option ActivationChallenge :=
  if init.ekPublic.length = 0 ∨ init.akPublic.length = 0 ∨ init.akName.length = 0 then none
  else do
    let ekPublic ← parseEKPublic lib init.ekPublic
    let akPublic ← decodeTPMPublic lib init.akPublic
    if validAKTPMPublic akPublic = false then none
    else
      let (digest, encodedName) ← lib.name akPublic
      if digest.length ≠ 32 ∨ encodedName ≠ init.akName then none
      else
        let secret ← drawn
        let (credential, encryptedSecret) ← lib.generateCredential encodedName ekPublic secret
        if credential.length = 0 ∨ encryptedSecret.length = 0 then none
        else some ⟨secret, credential, encryptedSecret⟩

/-- The chain's digest: every certificate behind its length. -/
def chainDigest (chain : List Octets) : Digest32 :=
  lib.sha256 (ascii "PBNS-EK-CHAIN-v1" ++ chain.flatMap fun certificate =>
    writeU32Be (BitVec.ofNat 32 certificate.length) ++ certificate)

/-- The loop of `VerifyEKCertificateChain` over the certificates. -/
def parseChain : List Octets → Option (List Certificate)
  | [] => some []
  | encoded :: rest =>
    if encoded.length = 0 ∨ maximumPublicSize < encoded.length then none
    else do
      let certificate ← lib.parseCertificate encoded
      let certificates ← parseChain rest
      some (certificate :: certificates)

/-- The chain leads from the endorsement key to a root. -/
def chainVerifies (ekPublic : PublicKey) (chain : List Octets) (roots : Option ρ) (now : Time) :
    Bool :=
  match roots with
  | none => false
  | some roots =>
    if chain.length = 0 ∨ maximumCertCount < chain.length ∨ now = Time.zero then false
    else
      match parseChain lib chain with
      | some (leaf :: intermediates) =>
        leaf.publicKey = some ekPublic && lib.verifyCertificate roots leaf intermediates now
      | _ => false

/-- `VerifyEKCertificateChain` -/
def verifyEKCertificateChain (ekPublicDER : Octets) (chain : List Octets) (roots : Option ρ)
    (now : Time) : Option (Assurance × Digest32) := do
  let ekPublic ← parseEKPublic lib ekPublicDER
  if chainVerifies lib ekPublic chain roots now = true then
    some (.tpmVerified, chainDigest lib chain)
  else some (.tpmUnverified, List.Vector.replicate 32 0#8)

/-! ### Sessions -/

structure PendingSession where
  pendingID : Identifier16
  requestID : Identifier16
  hostNonce : Digest32
  serverNonce : Digest32
  initDigest : Digest32
  baselineDigest : Digest32
  flow : ℕ
  identityCOSEKey : Octets
  identityPublic : PublicKey
  fingerprint : Digest32
  activationSecret : Digest32
  akPublic : Octets
  akName : Octets
  ekPublic : Octets
  ekChainDigest : Digest32
  identityTPMPublic : Octets
  assurance : Assurance
  deriving DecidableEq

/-- `certificationDigest`, what the attestation key has to certify. -/
def certificationDigest (session : PendingSession) : Digest32 :=
  lib.sha256 (ascii "PBNS-ENROLLMENT-CERTIFY-v1" ++ session.requestID.toList
    ++ session.serverNonce.toList ++ session.initDigest.toList ++ session.baselineDigest.toList)

/-- `Verify` of the certifier. -/
def certify (session : PendingSession) (proof : Proof) : Bool :=
  if session.akPublic.length = 0 ∨ session.identityTPMPublic.length = 0 ∨
      proof.certifyAttestation.length = 0 ∨ proof.certifySignature.length = 0 then false
  else
    match decodeTPMPublic lib session.akPublic, decodeTPMPublic lib session.identityTPMPublic with
    | some akPublic, some identityTPMPublic =>
      match lib.publicKey akPublic, lib.publicKey identityTPMPublic,
          lib.encodePublic identityTPMPublic with
      | some akKey, some identityKey, some canonicalIdentityPublic =>
        akPublic.nameAlg = algSHA256 && decide (0 < canonicalIdentityPublic.length) &&
          identityKey = session.identityPublic &&
          lib.verifyCertification canonicalIdentityPublic proof.certifyAttestation
            proof.certifySignature akKey &&
          lib.extraData proof.certifyAttestation = some (certificationDigest lib session).toList
      | _, _, _ => false
    | _, _ => false

/-! ### The service -/

/-- The configuration of `NewService`. -/
structure Service (ρ : Type) where
  recipientKID : Octets
  /-- the key identifier of the signer -/
  keyID : Octets
  /-- there are an activator and a certifier -/
  tpm : Bool
  ekRoots : Option ρ

structure State where
  sessions : Identifier16 → Option PendingSession
  db : Store.Database

/-- A call of `Begin`, with what the clocks and the random source give it. -/
structure BeginCall where
  envelope : Octets
  serverNonce : Option Digest32
  secret : Option Digest32
  now : Time
  storeNow : Time
  storeCreated : Time
  pendingIDs : Store.Random 16
  salt : ℕ

structure CompleteCall where
  envelope : Octets
  now : Time
  storeNow : Time
  salt : ℕ

variable (service : Service ρ)

def openEnvelope (encoded : Octets) : Except Error (EncryptedEnvelope × Octets) := do
  rejectIf (encoded.length = 0 ∨ maximumEnvelopeSize < encoded.length) .invalid
  let envelope ← orReject .invalid (lib.decodeEnvelope encoded)
  rejectIf (isZero envelope.requestID = true ∨ isZero envelope.hostNonce = true ∨
    envelope.recipientKID ≠ service.recipientKID ∨ envelope.ciphertext.length = 0) .invalid
  let plaintext ← orReject .decryption (lib.decrypt envelope.ciphertext
    (envelopeAAD envelope.requestID envelope.hostNonce envelope.recipientKID))
  .ok (envelope, plaintext)

/-- What `Begin` has before it takes the lock: the token, the session but for its pending record,
and the challenge. -/
structure Prepared where
  token : Digest32
  session : PendingSession
  challenge : Challenge

/-- The session and the challenge of an init that was checked, without TPM evidence. -/
def newSession (init : Init) (plaintext : Octets) (identityPublic : PublicKey)
    (serverNonce : Digest32) : Prepared where
  token := init.token
  session := {
    pendingID := List.Vector.replicate 16 0#8
    requestID := init.context.requestID
    hostNonce := init.hostNonce
    serverNonce
    initDigest := lib.sha256 plaintext
    baselineDigest := init.initialEvidenceDigest
    flow := init.flow
    identityCOSEKey := init.identityCOSEKey
    identityPublic
    fingerprint := lib.sha256 init.identityCOSEKey
    activationSecret := List.Vector.replicate 32 0#8
    akPublic := []
    akName := []
    ekPublic := []
    ekChainDigest := List.Vector.replicate 32 0#8
    identityTPMPublic := []
    assurance := .software }
  challenge := {
    context := ⟨domain, 1, serviceEnrollment, init.context.requestID,
      lib.sha256 init.identityCOSEKey, init.hostNonce, stageChallenge, 0, service.keyID⟩
    hostNonce := init.hostNonce
    serverNonce
    initDigest := lib.sha256 plaintext
    credentialBlob := []
    encryptedSecret := []
    flow := init.flow }

/-- The TPM evidence is added. -/
def Prepared.withTPM (prepared : Prepared) (init : Init) (activation : ActivationChallenge)
    (assurance : Assurance) (ekChainDigest : Digest32) : Prepared :=
  { prepared with
    session := { prepared.session with
      activationSecret := activation.secret
      akPublic := init.akPublic
      akName := init.akName
      ekPublic := init.ekPublic
      identityTPMPublic := init.identityTPMPublic
      assurance
      ekChainDigest }
    challenge := { prepared.challenge with
      credentialBlob := activation.credentialBlob
      encryptedSecret := activation.encryptedSecret } }

/-- The branch of `Begin` on the flow. -/
def addEvidence (call : BeginCall) (init : Init) (prepared : Prepared) : Except Error Prepared :=
  if init.flow = flowSoftware then do
    rejectIf (softwareInitFieldsEmpty init = false) .invalid
    .ok prepared
  else do
    rejectIf (service.tpm = false) .state
    let activation ← orReject .authentication (generate lib call.secret init)
    let (assurance, ekChainDigest) ← orReject .authentication
      (verifyEKCertificateChain lib init.ekPublic init.ekCertificateChain service.ekRoots call.now)
    .ok (prepared.withTPM init activation assurance ekChainDigest)

/-- `random32` -/
def random32 : Option Digest32 → Except Error Digest32
  | some value => if isZero value = true then .error .invalid else .ok value
  | none => .error .invalid

/-- `Begin` up to the lock. -/
def prepareBegin (call : BeginCall) : Except Error Prepared := do
  let (envelope, plaintext) ← openEnvelope lib service call.envelope
  let init ← orReject .invalid (lib.decodeInit plaintext)
  rejectIf (validInit init envelope service.recipientKID = false) .invalid
  let identityPublic ← orReject .authentication (parseIdentityCOSEKey init.identityCOSEKey)
  rejectIf (lib.sha256 init.identityCOSEKey ≠ init.context.hostFingerprint) .authentication
  let serverNonce ← random32 call.serverNonce
  addEvidence lib service call init (newSession lib service init plaintext identityPublic serverNonce)

/-- The error of `Begin` for an error of the store. -/
def beginError : Store.Error → Error
  | .transcriptMismatch => .transcript
  | .rateLimited => .transcript
  | error => .store error

def begin (call : BeginCall) (s : State) : Except Error Octets × State :=
  match prepareBegin lib service call with
  | .error error => (.error error, s)
  | .ok prepared =>
    match Store.beginEnrollmentSecret lib.toLibraries prepared.token.toList
        prepared.session.initDigest call.storeNow call.storeCreated call.pendingIDs s.db with
    | (.error error, db) => (.error (beginError error), { s with db })
    | (.ok pending, db) =>
      match lib.signChallenge prepared.challenge (challengeExternalAAD prepared.challenge)
          call.salt with
      | .error error => (.error error, { s with db })
      | .ok signed => (.ok signed, {
          sessions := Function.update s.sessions prepared.session.requestID
            (some { prepared.session with pendingID := pending.id })
          db })

/-! ### Complete -/

def proofMatchesSession (proof : Proof) (envelope : EncryptedEnvelope) (session : PendingSession)
    (recipientKID : Octets) : Bool :=
  proof.context.requestID = session.requestID && envelope.requestID = session.requestID &&
    proof.context.hostFingerprint = session.fingerprint &&
    proof.context.nonce = session.hostNonce && envelope.hostNonce = session.hostNonce &&
    proof.serverNonce = session.serverNonce && proof.initDigest = session.initDigest &&
    proof.baselineDigest = session.baselineDigest && proof.flow = session.flow &&
    proof.context.keyID = recipientKID

/-- What a call of `Complete` brings: the envelope, the signed message and the proof in it. -/
structure Submission where
  envelope : EncryptedEnvelope
  signedProof : Octets
  proof : Proof

/-- `Complete` up to the lock. -/
def readSubmission (encoded : Octets) : Except Error Submission := do
  let (envelope, signedProof) ← openEnvelope lib service encoded
  rejectIf (signedProof.length = 0 ∨ maximumEnvelopeSize < signedProof.length) .invalid
  let proof ← orReject .invalid (lib.decodeSign1Proof signedProof)
  rejectIf (validProofShape proof = false) .invalid
  .ok ⟨envelope, signedProof, proof⟩

def receiptOf (session : PendingSession) (now : Time) : Receipt where
  context := ⟨domain, 1, serviceEnrollment, session.requestID, session.fingerprint,
    session.hostNonce, stageReceipt, 2, service.keyID⟩
  fingerprint := session.fingerprint
  assurance := session.assurance
  baselineDigest := session.baselineDigest
  enrolledAtUnix := Time.unix now
  keyID := service.keyID

def hostOf (session : PendingSession) (now : Time) : HostRecord where
  fingerprint := session.fingerprint
  identityCOSEKey := session.identityCOSEKey
  akPublic := session.akPublic
  akName := session.akName
  ekPublic := session.ekPublic
  ekChainDigest := session.ekChainDigest
  assurance := session.assurance
  baselineID := session.baselineDigest
  enrolledAtUnix := Time.unix now

/-- The branch of `Complete` on the flow. -/
def checkEvidence (session : PendingSession) (proof : Proof) : Except Error Unit :=
  if session.flow = flowSoftware then
    rejectIf (proof.activatedCredential.length ≠ 0 ∨ proof.certifyAttestation.length ≠ 0 ∨
      proof.certifySignature.length ≠ 0) .authentication
  else do
    rejectIf (proof.activatedCredential ≠ session.activationSecret.toList) .authentication
    rejectIf (certify lib session proof = false) .authentication

/-- The checks of `Complete` on a proof, up to the signed receipt. -/
def checkProof (call : CompleteCall) (submission : Submission) (session : PendingSession) :
    Except Error Octets := do
  let proof := submission.proof
  rejectIf (proofMatchesSession proof submission.envelope session service.recipientKID = false)
    .transcript
  rejectIf (lib.verifySign1 submission.signedProof (proofExternalAAD proof) session.identityPublic
    = false) .authentication
  rejectIf (lib.sha256 proof.baselineEvidence ≠ proof.baselineDigest ∨
    proof.baselineDigest ≠ session.baselineDigest ∨ proof.baselineEvidence.length = 0 ∨
    maximumBaselineSize < proof.baselineEvidence.length) .authentication
  rejectIf ((Baseline.decode lib.baseline proof.baselineEvidence).isNone = true) .authentication
  checkEvidence lib session proof
  rejectIf (Time.unix call.now ≤ 0) .invalid
  lib.signReceipt (receiptOf service session call.now)
    (receiptExternalAAD (receiptOf service session call.now) session.serverNonce) call.salt

/-- `GetCompletedEnrollment` -/
def getCompletedEnrollment (requestID : Identifier16) (envelopeDigest : Digest32)
    (db : Store.Database) : Except Store.Error Octets :=
  if isZero requestID = true ∨ isZero envelopeDigest = true then .error .argument
  else
    match db.completedEnrollments requestID with
    | none => .error .notFound
    | some record =>
      if record.requestID ≠ requestID ∨ record.receipt.length = 0 ∨
          Store.maxReceiptBytes < record.receipt.length then .error .corrupt
      else if record.envelopeDigest ≠ envelopeDigest then .error .transcriptMismatch
      else .ok record.receipt

/-- A `Complete` without a session: only a receipt that was given before. -/
def retry (call : CompleteCall) (submission : Submission) (db : Store.Database) :
    Except Error Octets :=
  match getCompletedEnrollment submission.envelope.requestID (lib.sha256 call.envelope) db with
  | .ok receipt => .ok receipt
  | .error _ => .error .state

/-- The transaction of `Complete`. -/
def storeHost (call : CompleteCall) (submission : Submission) (session : PendingSession)
    (receipt : Octets) (db : Store.Database) : Except Store.Error Unit × Store.Database :=
  Store.completeEnrollmentTranscript lib.toLibraries session.pendingID (hostOf session call.now)
    submission.proof.baselineEvidence receipt session.requestID (lib.sha256 call.envelope)
    call.storeNow db

def complete (call : CompleteCall) (s : State) : Except Error Octets × State :=
  match readSubmission lib service call.envelope with
  | .error error => (.error error, s)
  | .ok submission =>
    match s.sessions submission.envelope.requestID with
    | none => (retry lib call submission s.db, s)
    | some session =>
      match checkProof lib service call submission session with
      | .error error => (.error error, s)
      | .ok receipt =>
        match storeHost lib call submission session receipt s.db with
        | (.error error, db) => (.error (.store error), { s with db })
        | (.ok (), db) => (.ok receipt, {
            sessions := Function.update s.sessions session.requestID none
            db })

end Evidence

/-! ### What the checks leave -/

section Inversion

variable {ρ : Type} {lib : Libraries ρ} {service : Service ρ}

theorem openEnvelope_ok {encoded plaintext : Octets} {envelope : EncryptedEnvelope}
    (h : openEnvelope lib service encoded = .ok (envelope, plaintext)) :
    encoded.length ≤ maximumEnvelopeSize ∧ lib.decodeEnvelope encoded = some envelope ∧
      isZero envelope.requestID = false ∧ isZero envelope.hostNonce = false ∧
      envelope.recipientKID = service.recipientKID ∧
      lib.decrypt envelope.ciphertext
        (envelopeAAD envelope.requestID envelope.hostNonce envelope.recipientKID)
        = some plaintext := by
  simp only [openEnvelope, bind_eq_ok, rejectIf_eq_ok, exists_const, orReject_eq_ok, not_or, Bool.not_eq_true,
    not_not, Nat.not_lt, Except.ok.injEq, Prod.mk.injEq] at h
  obtain ⟨hsize, decoded, hdecode, ⟨hid, hnonce, hkid, -⟩, opened, hdecrypt, rfl, rfl⟩ := h
  exact ⟨hsize.2, hdecode, hid, hnonce, hkid, hdecrypt⟩

/-- The secret was made for the two keys of the init. -/
structure Activation (lib : Libraries ρ) (init : Init) (activation : ActivationChallenge) : Prop where
  credential : ∃ ekPublic akPublic digest, parseEKPublic lib init.ekPublic = some ekPublic ∧
    decodeTPMPublic lib init.akPublic = some akPublic ∧ validAKTPMPublic akPublic = true ∧
    lib.name akPublic = some (digest, init.akName) ∧
    lib.generateCredential init.akName ekPublic activation.secret
      = some (activation.credentialBlob, activation.encryptedSecret)

theorem generate_ok {drawn : Option Digest32} {init : Init} {activation : ActivationChallenge}
    (h : generate lib drawn init = some activation) :
    drawn = some activation.secret ∧ Activation lib init activation := by
  rw [generate] at h
  split_ifs at h
  obtain ⟨ekPublic, hek, h⟩ := Option.bind_eq_some_iff.mp h
  obtain ⟨akPublic, hak, h⟩ := Option.bind_eq_some_iff.mp h
  split_ifs at h with hvalid
  obtain ⟨⟨digest, encodedName⟩, hname, h⟩ := Option.bind_eq_some_iff.mp h
  simp only at h
  split_ifs at h with hnames
  obtain ⟨secret, hdrawn, h⟩ := Option.bind_eq_some_iff.mp h
  obtain ⟨⟨credential, encryptedSecret⟩, hcredential, h⟩ := Option.bind_eq_some_iff.mp h
  simp only at h
  split_ifs at h
  obtain rfl := Option.some.inj h
  obtain rfl : encodedName = init.akName := by
    simp only [not_or, not_not] at hnames
    exact hnames.2
  exact ⟨hdrawn, ekPublic, akPublic, digest, hek, hak, by simpa using hvalid, hname, hcredential⟩

/-- The attestation key has certified the identity key, over the digest of the session. -/
structure Certification (lib : Libraries ρ) (session : PendingSession) (proof : Proof) : Prop where
  certified : ∃ akPublic akKey identityArea identityPublic,
    decodeTPMPublic lib session.akPublic = some akPublic ∧ lib.publicKey akPublic = some akKey ∧
    decodeTPMPublic lib session.identityTPMPublic = some identityArea ∧
    lib.publicKey identityArea = some session.identityPublic ∧
    lib.encodePublic identityArea = some identityPublic ∧
    lib.verifyCertification identityPublic proof.certifyAttestation proof.certifySignature akKey
      = true
  extraData : lib.extraData proof.certifyAttestation
    = some (certificationDigest lib session).toList

theorem certify_ok {session : PendingSession} {proof : Proof}
    (h : certify lib session proof = true) : Certification lib session proof := by
  rw [certify] at h
  split_ifs at h
  cases hak : decodeTPMPublic lib session.akPublic with
  | none => simp [hak] at h
  | some akPublic =>
    cases hidentity : decodeTPMPublic lib session.identityTPMPublic with
    | none => simp [hak, hidentity] at h
    | some identityArea =>
      simp only [hak, hidentity] at h
      cases hakKey : lib.publicKey akPublic with
      | none => simp [hakKey] at h
      | some akKey =>
        cases hkey : lib.publicKey identityArea with
        | none => simp [hakKey, hkey] at h
        | some identityKey =>
          cases hencode : lib.encodePublic identityArea with
          | none => simp [hakKey, hkey, hencode] at h
          | some identityPublic =>
            simp only [hakKey, hkey, hencode, Bool.and_eq_true, decide_eq_true_eq] at h
            obtain ⟨⟨⟨-, rfl⟩, hverify⟩, hextra⟩ := h
            exact ⟨⟨akPublic, akKey, identityArea, identityPublic, hak, hakKey, hidentity, hkey,
              hencode, hverify⟩, hextra⟩

theorem addEvidence_ok {call : BeginCall} {init : Init} {prepared result : Prepared}
    (h : addEvidence lib service call init prepared = .ok result) :
    (init.flow = flowSoftware ∧ softwareInitFieldsEmpty init = true ∧ result = prepared) ∨
      (init.flow ≠ flowSoftware ∧ ∃ activation assurance ekChainDigest,
        call.secret = some activation.secret ∧ Activation lib init activation ∧
        verifyEKCertificateChain lib init.ekPublic init.ekCertificateChain service.ekRoots call.now
          = some (assurance, ekChainDigest) ∧
        result = prepared.withTPM init activation assurance ekChainDigest) := by
  rw [addEvidence] at h
  split_ifs at h with hflow
  · obtain ⟨hempty, h⟩ := rejectIf_bind_eq_ok.mp h
    exact .inl ⟨hflow, by simpa using hempty, (Except.ok.inj h).symm⟩
  · simp only [bind_eq_ok, rejectIf_eq_ok, exists_const, orReject_eq_ok, Prod.exists] at h
    obtain ⟨-, activation, hactivation, assurance, ekChainDigest, hchain, h⟩ := h
    obtain ⟨hsecret, hmade⟩ := generate_ok hactivation
    exact .inr ⟨hflow, activation, assurance, ekChainDigest, hsecret, hmade, hchain, (Except.ok.inj h).symm⟩

/-- A `Begin` that comes to the lock has read an init and checked it. -/
structure Checked (lib : Libraries ρ) (service : Service ρ) (call : BeginCall) (plaintext : Octets)
    (init : Init) (identityPublic : PublicKey) (serverNonce : Digest32) (prepared : Prepared) :
    Prop where
  opened : ∃ envelope, openEnvelope lib service call.envelope = .ok (envelope, plaintext) ∧
    validInit init envelope service.recipientKID = true
  decoded : lib.decodeInit plaintext = some init
  key : parseIdentityCOSEKey init.identityCOSEKey = some identityPublic
  fingerprint : lib.sha256 init.identityCOSEKey = init.context.hostFingerprint
  nonce : call.serverNonce = some serverNonce ∧ isZero serverNonce = false
  evidence : addEvidence lib service call init
    (newSession lib service init plaintext identityPublic serverNonce) = .ok prepared

theorem random32_ok {drawn : Option Digest32} {value : Digest32} (h : random32 drawn = .ok value) :
    drawn = some value ∧ isZero value = false := by
  cases drawn with
  | none => exact absurd h (by simp [random32])
  | some found =>
    rw [random32] at h
    split_ifs at h with hzero
    obtain rfl := Except.ok.inj h
    exact ⟨rfl, by simpa using hzero⟩

theorem prepareBegin_ok {call : BeginCall} {prepared : Prepared}
    (h : prepareBegin lib service call = .ok prepared) :
    ∃ plaintext init identityPublic serverNonce,
      Checked lib service call plaintext init identityPublic serverNonce prepared := by
  simp only [prepareBegin, bind_eq_ok, Prod.exists, rejectIf_eq_ok, exists_const, orReject_eq_ok, not_not,
    Bool.not_eq_false] at h
  obtain ⟨envelope, plaintext, hopen, init, hinit, hvalid, identityPublic, hkey, hfingerprint, serverNonce, hnonce,
    h⟩ := h
  exact ⟨plaintext, init, identityPublic, serverNonce, ⟨envelope, hopen, by simpa using hvalid⟩,
    hinit, hkey, hfingerprint, random32_ok hnonce, h⟩

/-- What a proof that passed the checks of `Complete` has shown. -/
structure Shown (lib : Libraries ρ) (service : Service ρ) (call : CompleteCall)
    (submission : Submission) (session : PendingSession) (receipt : Octets) : Prop where
  matches_session : proofMatchesSession submission.proof submission.envelope session
    service.recipientKID = true
  signed : lib.verifySign1 submission.signedProof (proofExternalAAD submission.proof)
    session.identityPublic = true
  baseline : lib.sha256 submission.proof.baselineEvidence = session.baselineDigest
  decoded : (Baseline.decode lib.baseline submission.proof.baselineEvidence).isSome = true
  software : session.flow = flowSoftware → submission.proof.activatedCredential = [] ∧
    submission.proof.certifyAttestation = [] ∧ submission.proof.certifySignature = []
  activated : session.flow ≠ flowSoftware →
    submission.proof.activatedCredential = session.activationSecret.toList
  certified : session.flow ≠ flowSoftware → Certification lib session submission.proof
  time : 0 < Time.unix call.now
  receipt : lib.signReceipt (receiptOf service session call.now)
    (receiptExternalAAD (receiptOf service session call.now) session.serverNonce) call.salt
    = .ok receipt

theorem checkEvidence_ok {session : PendingSession} {proof : Proof} {u : Unit}
    (h : checkEvidence lib session proof = .ok u) :
    (session.flow = flowSoftware → proof.activatedCredential = [] ∧ proof.certifyAttestation = [] ∧
      proof.certifySignature = []) ∧
    (session.flow ≠ flowSoftware → proof.activatedCredential = session.activationSecret.toList) ∧
    (session.flow ≠ flowSoftware → Certification lib session proof) := by
  rw [checkEvidence] at h
  split at h
  · rename_i hflow
    have hempty := rejectIf_eq_ok.mp h
    simp only [not_or, not_not, List.length_eq_zero_iff] at hempty
    exact ⟨fun _ => hempty, fun hne => absurd hflow hne, fun hne => absurd hflow hne⟩
  · rename_i hflow
    obtain ⟨hsecret, h⟩ := rejectIf_bind_eq_ok.mp h
    have hcertify := rejectIf_eq_ok.mp h
    exact ⟨fun heq => absurd heq hflow, fun _ => not_not.mp hsecret,
      fun _ => certify_ok (by simpa using hcertify)⟩

theorem checkProof_ok {call : CompleteCall} {submission : Submission} {session : PendingSession}
    {receipt : Octets} (h : checkProof lib service call submission session = .ok receipt) :
    Shown lib service call submission session receipt := by
  simp only [checkProof, bind_eq_ok, rejectIf_eq_ok, exists_const, not_or, not_not, Bool.not_eq_false,
    Int.not_le] at h
  obtain ⟨hmatches, hsigned, ⟨hdigest, hbaseline, -⟩, hdecoded, u, hevidence, htime, h⟩ := h
  obtain ⟨hsoftware, hactivated, hcertified⟩ := checkEvidence_ok hevidence
  exact ⟨hmatches, hsigned, hdigest.trans hbaseline, by simpa [Option.isSome_iff_ne_none] using hdecoded,
    hsoftware, hactivated, hcertified, htime, h⟩

theorem readSubmission_ok {encoded : Octets} {submission : Submission}
    (h : readSubmission lib service encoded = .ok submission) :
    openEnvelope lib service encoded = .ok (submission.envelope, submission.signedProof) ∧
      lib.decodeSign1Proof submission.signedProof = some submission.proof ∧
      validProofShape submission.proof = true := by
  simp only [readSubmission, bind_eq_ok, Prod.exists, rejectIf_eq_ok, exists_const, orReject_eq_ok,
    Bool.not_eq_false] at h
  obtain ⟨envelope, signedProof, hopen, -, proof, hproof, hshape, h⟩ := h
  obtain rfl := Except.ok.inj h
  exact ⟨hopen, hproof, hshape⟩

end Inversion

/-! ### What a call does -/

/-- The call of the store in `Begin`. -/
def Prepared.storeCall (prepared : Prepared) (call : BeginCall) : Store.Call :=
  .beginEnrollmentSecret prepared.token.toList prepared.session.initDigest call.storeNow
    call.storeCreated call.pendingIDs

section Calls

variable {ρ : Type} {lib : Libraries ρ} {service : Service ρ}

/-- The call of the store in `Complete`. -/
def hostCall (lib : Libraries ρ) (call : CompleteCall) (submission : Submission)
    (session : PendingSession) (receipt : Octets) : Store.Call :=
  .completeEnrollmentTranscript session.pendingID (hostOf session call.now)
    submission.proof.baselineEvidence receipt session.requestID (lib.sha256 call.envelope)
    call.storeNow

/-- **Everything a `Begin` can do.**  It fails before the lock, it fails behind the call of the
store, or it opens a session. -/
theorem begin_cases (call : BeginCall) (s : State) :
    (∃ error, begin lib service call s = (.error error, s)) ∨
      ∃ prepared, prepareBegin lib service call = .ok prepared ∧
        ((∃ error, begin lib service call s
            = (.error error, { s with db := ((prepared.storeCall call).run lib.toLibraries s.db).2 })) ∨
          ∃ pending signed, (prepared.storeCall call).run lib.toLibraries s.db
              = (.begun (.ok pending), ((prepared.storeCall call).run lib.toLibraries s.db).2) ∧
            lib.signChallenge prepared.challenge (challengeExternalAAD prepared.challenge) call.salt
              = .ok signed ∧
            begin lib service call s = (.ok signed, {
              sessions := Function.update s.sessions prepared.session.requestID
                (some { prepared.session with pendingID := pending.id })
              db := ((prepared.storeCall call).run lib.toLibraries s.db).2 })) := by
  cases hprepare : prepareBegin lib service call with
  | error error => exact .inl ⟨error, by rw [begin, hprepare]⟩
  | ok prepared =>
    refine .inr ⟨prepared, rfl, ?_⟩
    cases hstore : Store.beginEnrollmentSecret lib.toLibraries prepared.token.toList
        prepared.session.initDigest call.storeNow call.storeCreated call.pendingIDs s.db with
    | mk result db =>
      have hrun : (prepared.storeCall call).run lib.toLibraries s.db = (.begun result, db) := by
        rw [Prepared.storeCall, Store.Call.run, hstore]
        rfl
      rw [hrun]
      cases result with
      | error error => exact .inl ⟨beginError error, by simp only [begin, hprepare, hstore]⟩
      | ok pending =>
        cases hsign : lib.signChallenge prepared.challenge
            (challengeExternalAAD prepared.challenge) call.salt with
        | error error => exact .inl ⟨error, by simp only [begin, hprepare, hstore, hsign]⟩
        | ok signed =>
          exact .inr ⟨pending, signed, rfl, rfl, by simp only [begin, hprepare, hstore, hsign]⟩

/-- **Everything a `Complete` can do.**  It fails and changes nothing, it gives a receipt out again,
or it stores a host. -/
theorem complete_cases (call : CompleteCall) (s : State) :
    (∃ error, complete lib service call s = (.error error, s)) ∨
      ∃ submission receipt, readSubmission lib service call.envelope = .ok submission ∧
        ((s.sessions submission.envelope.requestID = none ∧
            getCompletedEnrollment submission.envelope.requestID (lib.sha256 call.envelope) s.db
              = .ok receipt ∧
            complete lib service call s = (.ok receipt, s)) ∨
          ∃ session, s.sessions submission.envelope.requestID = some session ∧
            checkProof lib service call submission session = .ok receipt ∧
            (hostCall lib call submission session receipt).run lib.toLibraries s.db
              = (.done (.ok ()),
                  ((hostCall lib call submission session receipt).run lib.toLibraries s.db).2) ∧
            complete lib service call s = (.ok receipt, {
              sessions := Function.update s.sessions session.requestID none
              db := ((hostCall lib call submission session receipt).run lib.toLibraries s.db).2 })) := by
  cases hread : readSubmission lib service call.envelope with
  | error error => exact .inl ⟨error, by rw [complete, hread]⟩
  | ok submission =>
    cases hsession : s.sessions submission.envelope.requestID with
    | none =>
      cases hretry : getCompletedEnrollment submission.envelope.requestID
          (lib.sha256 call.envelope) s.db with
      | error error => exact .inl ⟨.state, by simp only [complete, hread, hsession, retry, hretry]⟩
      | ok receipt =>
        exact .inr ⟨submission, receipt, rfl, .inl ⟨hsession, hretry,
          by simp only [complete, hread, hsession, retry, hretry]⟩⟩
    | some session =>
      cases hcheck : checkProof lib service call submission session with
      | error error => exact .inl ⟨error, by simp only [complete, hread, hsession, hcheck]⟩
      | ok receipt =>
        cases hstore : storeHost lib call submission session receipt s.db with
        | mk result db' =>
          have hrun : (hostCall lib call submission session receipt).run lib.toLibraries s.db
              = (.done result, db') := congrArg (Prod.map Store.Outcome.done id) hstore
          obtain ⟨hnone, -⟩ | ⟨c, -, ⟨error, he, rfl⟩ | ⟨hok, -⟩⟩ := Store.Call.run_cases hrun
          · cases hnone
          · cases he
            exact .inl ⟨.store error, by simp only [complete, hread, hsession, hcheck, hstore]⟩
          · cases hok
            refine .inr ⟨submission, receipt, rfl, .inr ⟨session, hsession, hcheck, by rw [hrun], ?_⟩⟩
            simp only [complete, hread, hsession, hcheck, hstore, hrun]

/-- A host that is stored was found to be new, with an open token. -/
theorem hostCall_done {call : CompleteCall} {submission : Submission} {session : PendingSession}
    {receipt : Octets} {db db' : Store.Database}
    (h : (hostCall lib call submission session receipt).run lib.toLibraries db
      = (.done (.ok ()), db')) :
    (receipt.length ≠ 0 ∧ receipt.length ≤ Store.maxReceiptBytes ∧
        isZero session.requestID = false ∧ isZero (lib.sha256 call.envelope) = false) ∧
      (hostOf session call.now).validate = true ∧
      ∃ pending record, Store.Completable (hostOf session call.now)
          (some (submission.proof.baselineEvidence, receipt))
          (some ⟨session.requestID, lib.sha256 call.envelope, receipt⟩) session.pendingID
          call.storeNow pending record db ∧
        db' = Store.completedDatabase (hostOf session call.now)
          (some (submission.proof.baselineEvidence, receipt))
          (some ⟨session.requestID, lib.sha256 call.envelope, receipt⟩) pending record
          call.storeNow db := by
  obtain ⟨hnone, -⟩ | ⟨c, hc, ⟨e, he, -⟩ | ⟨-, pending, record, hdone⟩⟩ := Store.Call.run_cases h
  · cases hnone
  · cases he
  · cases hc
    have haccepted := hdone.accepted
    simp only [Store.evidenceRefused, decide_eq_true_eq, decide_eq_false_iff_not, not_or,
      Bool.not_eq_true, not_not, Nat.not_lt] at haccepted
    obtain ⟨⟨-, -, hnonempty, hsize, -⟩, hrequest, hdigest⟩ := haccepted
    exact ⟨⟨hnonempty, hsize, hrequest, hdigest⟩, hdone.valid, pending, record, hdone.found, hdone.left⟩

end Calls

/-! ### Runs -/

/-- A step of the gateway: a call of the service, a restart, or another call of the store. -/
inductive Step
  | begin (call : BeginCall)
  | complete (call : CompleteCall)
  | restart
  | store (call : Store.Call)

section Runs

variable {ρ : Type} (lib : Libraries ρ) (service : Service ρ)

def Step.run : Step → State → State
  | .begin call, s => (Enrollment.begin lib service call s).2
  | .complete call, s => (Enrollment.complete lib service call s).2
  | .restart, s => { s with sessions := fun _ => none }
  | .store call, s => { s with db := (call.run lib.toLibraries s.db).2 }

/-- A new gateway. -/
def State.start : State := ⟨fun _ => none, Store.Database.empty⟩

def run (steps : List Step) (s : State) : State :=
  steps.foldl (fun s step => step.run lib service s) s

variable {lib service}

@[simp] theorem run_nil (s : State) : run lib service [] s = s := rfl

@[simp] theorem run_cons (step : Step) (steps : List Step) (s : State) :
    run lib service (step :: steps) s = run lib service steps (step.run lib service s) := rfl

theorem run_snoc (steps : List Step) (step : Step) (s : State) :
    run lib service (steps ++ [step]) s = step.run lib service (run lib service steps s) := by
  rw [run, List.foldl_append]
  rfl

/-- A step does to the database what one call of the store does, or nothing. -/
theorem Step.run_effect (step : Step) (s : State) :
    ∃ created, Store.Effect s.db created (step.run lib service s).db := by
  cases step with
  | begin call =>
    rcases begin_cases call s with ⟨error, h⟩ | ⟨prepared, -, ⟨error, h⟩ | ⟨pending, signed, -, -, h⟩⟩
    · exact ⟨[], by rw [Step.run, h]; exact .nothing⟩
    · exact ⟨_, by rw [Step.run, h]; exact Store.Call.run_effect _⟩
    · exact ⟨_, by rw [Step.run, h]; exact Store.Call.run_effect _⟩
  | complete call =>
    rcases complete_cases call s with
      ⟨error, h⟩ | ⟨submission, receipt, -, ⟨-, -, h⟩ | ⟨session, -, -, -, h⟩⟩
    · exact ⟨[], by rw [Step.run, h]; exact .nothing⟩
    · exact ⟨[], by rw [Step.run, h]; exact .nothing⟩
    · exact ⟨_, by rw [Step.run, h]; exact Store.Call.run_effect _⟩
  | restart => exact ⟨[], .nothing⟩
  | store call => exact ⟨_, Store.Call.run_effect _⟩

end Runs

end Pbns.Enrollment
