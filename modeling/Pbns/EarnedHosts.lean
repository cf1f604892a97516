/-
Every enrolled host has earned its record (`gateway/internal/enrollment`).

A session in the memory of the gateway is what some earlier `Begin` prepared, and the token of that
`Begin` stays bound to the pending record the session names (`Grounded`).  A `Complete` that stores
a host has checked a proof against the session, so the host, the proof, the token and the receipt
all belong to that one `Begin`.

* `Grounded.step`, `run_grounded` — sessions come from earlier calls;
* `hosts_earned` — what is true of a host that `Complete` stores.
-/
import Pbns.EnrollmentService
import Mathlib.Data.List.Induction

namespace Pbns.Baseline

open Octets Model

theorem decode_valid {cbor : Cbor} {encoded : Octets} {controlled : Controlled}
    (h : decode cbor encoded = some controlled) : valid controlled = true := by
  rw [decode] at h
  split_ifs at h
  cases hread : cbor.unmarshal encoded with
  | none => simp [hread] at h
  | some found =>
    simp only [hread] at h
    split_ifs at h with hvalid hcanonical
    obtain rfl := Option.some.inj h
    simpa using hvalid

end Pbns.Baseline

namespace Pbns.Enrollment

open Octets Model

section Earned

variable {ρ : Type}

/-! ### Where sessions come from -/

/-- An accepted `Begin` in a run. -/
def Accepted (lib : Libraries ρ) (service : Service ρ) (steps : List Step) (call : BeginCall) : Prop :=
  ∃ before after signed, steps = before ++ .begin call :: after ∧
    (begin lib service call (run lib service before .start)).1 = .ok signed

/-- The session is what an accepted `Begin` prepared, with the pending record of its token. -/
structure Opened (lib : Libraries ρ) (service : Service ρ) (steps : List Step)
    (session : PendingSession) (call : BeginCall) (prepared : Prepared) (pending : Store.Pending) :
    Prop where
  accepted : Accepted lib service steps call
  ready : prepareBegin lib service call = .ok prepared
  eq : session = { prepared.session with pendingID := pending.id }
  token : pending.tokenDigest = lib.sha256 prepared.token.toList

/-- The database is sound, and every session was opened by an accepted `Begin` whose token is still
bound to the session's pending record. -/
structure Grounded (lib : Libraries ρ) (service : Service ρ) (steps : List Step) (s : State) :
    Prop where
  sound : ∃ created, Store.Sound created s.db
  opened : ∀ id session, s.sessions id = some session → session.requestID = id ∧
    ∃ call prepared pending, Opened lib service steps session call prepared pending ∧
      Store.Bound pending s.db

variable {lib : Libraries ρ} {service : Service ρ} {steps : List Step} {s : State}
variable {call : BeginCall} {prepared : Prepared} {plaintext : Octets} {init : Init}
   {identityPublic : PublicKey} {serverNonce : Digest32}

theorem Accepted.snoc (h : Accepted lib service steps call) (step : Step) :
    Accepted lib service (steps ++ [step]) call := by
  obtain ⟨before, after, signed, rfl, hbegin⟩ := h
  exact ⟨before, after ++ [step], signed, by simp, hbegin⟩

/-- Sessions that were there stay grounded. -/
theorem Grounded.kept (h : Grounded lib service steps s) (step : Step) {id : Identifier16}
    {session : PendingSession} (hsession : s.sessions id = some session) :
    session.requestID = id ∧ ∃ call prepared pending,
      Opened lib service (steps ++ [step]) session call prepared pending ∧
        Store.Bound pending (step.run lib service s).db := by
  obtain ⟨hid, call, prepared, pending, hopened, hbound⟩ := h.opened id session hsession
  obtain ⟨created, heffect⟩ : ∃ created, Store.Effect s.db created (step.run lib service s).db :=
    step.run_effect s
  exact ⟨hid, call, prepared, pending,
    ⟨hopened.accepted.snoc step, hopened.ready, hopened.eq, hopened.token⟩,
    heffect.bound_keeps hbound⟩

/-- The record a `Begin` gets from the store is bound to its token. -/
theorem storeCall_bound {created : List (Digest32 × HostRecord)} {db db' : Store.Database}
    (hsound : Store.Sound created db) {pending : Store.Pending}
    (h : (prepared.storeCall call).run lib.toLibraries db = (.begun (.ok pending), db')) :
    pending.tokenDigest = lib.sha256 prepared.token.toList ∧ Store.Bound pending db' := by
  have hdigest : Store.digestSecret lib.toLibraries prepared.token.toList
      = some (lib.sha256 prepared.token.toList) := by
    rw [Store.digestSecret, if_neg]
    simp [Store.tokenByteLength]
  have hbegin : Store.beginEnrollmentDigest (lib.sha256 prepared.token.toList)
      prepared.session.initDigest call.storeNow call.storeCreated call.pendingIDs db
      = (.ok pending, db') := by
    rw [Prepared.storeCall, Store.Call.run, Store.beginEnrollmentSecret, hdigest] at h
    obtain ⟨hfst, hsnd⟩ := Prod.mk.inj h
    exact Prod.ext (Store.Outcome.begun.inj hfst) hsnd
  obtain ⟨-, htoken, -, hbound⟩ := Store.beginEnrollmentDigest_ok hsound hbegin
  exact ⟨htoken, hbound⟩

/-- **One step** keeps the sessions grounded. -/
theorem Grounded.step (h : Grounded lib service steps s) (hs : s = run lib service steps .start)
    (step : Step) : Grounded lib service (steps ++ [step]) (step.run lib service s) := by
  obtain ⟨created, hsound⟩ := h.sound
  obtain ⟨created', heffect⟩ : ∃ created, Store.Effect s.db created (step.run lib service s).db :=
    step.run_effect s
  refine ⟨⟨created ++ created', heffect.sound hsound⟩, ?_⟩
  intro id session hsession
  have hkept : s.sessions id = some session → _ := h.kept step
  cases step with
  | begin call =>
    rcases @begin_cases ρ lib service call s with
      ⟨error, hbegin⟩ | ⟨prepared, hprepare, ⟨error, hbegin⟩ | ⟨pending, signed, hstore, -, hbegin⟩⟩
    · rw [Step.run, hbegin] at hsession
      exact hkept hsession
    · rw [Step.run, hbegin] at hsession
      exact hkept hsession
    · rw [Step.run, hbegin] at hsession
      dsimp only at hsession
      by_cases hnew : id = prepared.session.requestID
      · -- the session that is opened here
        subst hnew
        rw [Function.update_self] at hsession
        obtain rfl := Option.some.inj hsession
        obtain ⟨htoken, hbound⟩ := storeCall_bound hsound hstore
        refine ⟨rfl, call, prepared, pending,
          ⟨⟨steps, [], signed, rfl, ?_⟩, hprepare, rfl, htoken⟩, ?_⟩
        · rw [← hs, hbegin]
        · rw [Step.run, hbegin]
          exact hbound
      · rw [Function.update_of_ne hnew] at hsession
        exact hkept hsession
  | complete call =>
    rcases @complete_cases ρ lib service call s with
      ⟨error, hcomplete⟩ | ⟨submission, receipt, -, ⟨-, -, hcomplete⟩ | ⟨found, -, -, -, hcomplete⟩⟩
    · rw [Step.run, hcomplete] at hsession
      exact hkept hsession
    · rw [Step.run, hcomplete] at hsession
      exact hkept hsession
    · rw [Step.run, hcomplete] at hsession
      dsimp only at hsession
      by_cases hgone : id = found.requestID
      · subst hgone
        simp at hsession
      · rw [Function.update_of_ne hgone] at hsession
        exact hkept hsession
  | restart => exact absurd hsession (by simp [Step.run])
  | store call => exact hkept hsession

/-- **Every run** keeps the sessions grounded. -/
theorem run_grounded (steps : List Step) :
    Grounded lib service steps (run lib service steps .start) := by
  -- along the run, from its front
  induction steps using List.reverseRecOn with
  | nil => exact ⟨⟨[], Store.Sound.empty⟩, fun _ _ h => absurd h (by simp [State.start])⟩
  | append_singleton steps step ih =>
    rw [run_snoc]
    exact ih.step rfl step

/-- An accepted `Begin` opens the session it has prepared. -/
theorem begin_opens {signed : Octets}
    (h : (begin lib service call (run lib service steps .start)).1 = .ok signed) :
    ∃ prepared pending, Opened lib service (steps ++ [.begin call])
        { prepared.session with pendingID := pending.id } call prepared pending ∧
      lib.signChallenge prepared.challenge (challengeExternalAAD prepared.challenge) call.salt
        = .ok signed ∧
      (run lib service (steps ++ [.begin call]) .start).sessions prepared.session.requestID
        = some { prepared.session with pendingID := pending.id } ∧
      Store.Bound pending (run lib service (steps ++ [.begin call]) .start).db := by
  obtain ⟨created, hsound⟩ := (run_grounded steps : Grounded lib service steps _).sound
  rw [run_snoc, Step.run]
  rcases @begin_cases ρ lib service call (run lib service steps .start) with ⟨error, heq⟩ |
    ⟨prepared, hprepare, ⟨error, heq⟩ | ⟨pending, sent, hstore, hsign, heq⟩⟩
  · cases h.symm.trans (congrArg Prod.fst heq)
  · cases h.symm.trans (congrArg Prod.fst heq)
  obtain rfl := Except.ok.inj (h.symm.trans (congrArg Prod.fst heq))
  obtain ⟨htoken, hbound⟩ := storeCall_bound hsound hstore
  refine ⟨prepared, pending, ⟨⟨steps, [], signed, rfl, h⟩, hprepare, rfl, htoken⟩, hsign, ?_, ?_⟩
  · rw [heq]
    exact Function.update_self _ _ _
  · rw [heq]
    exact hbound

/-! ### What a stored host has behind it -/

/-- A host that a `Complete` stored on the proof of a `Begin`: the record, the proof and the token
belong to the init of that `Begin`, and so does the receipt. -/
structure Earned (lib : Libraries ρ) (service : Service ρ) (steps : List Step) (call : CompleteCall)
    (host : HostRecord) (begun : BeginCall) (plaintext : Octets) (init : Init)
    (serverNonce : Digest32) (submission : Submission) : Prop where
  accepted : Accepted lib service steps begun
  message : lib.decodeInit plaintext = some init ∧
    ∃ envelope, openEnvelope lib service begun.envelope = .ok (envelope, plaintext)
  drawn : begun.serverNonce = some serverNonce
  read : readSubmission lib service call.envelope = .ok submission
  fingerprint : host.fingerprint = lib.sha256 host.identityCOSEKey
  key : host.identityCOSEKey = init.identityCOSEKey
  signed : ∃ identityPublic, parseIdentityCOSEKey host.identityCOSEKey = some identityPublic ∧
    lib.verifySign1 submission.signedProof (proofExternalAAD submission.proof) identityPublic = true
  requestID : submission.proof.context.requestID = init.context.requestID
  hostNonce : submission.proof.context.nonce = init.hostNonce
  challenge : submission.proof.serverNonce = serverNonce
  initDigest : submission.proof.initDigest = lib.sha256 plaintext
  baselineDigest : submission.proof.baselineDigest = init.initialEvidenceDigest
  flow : submission.proof.flow = init.flow
  /-- exactly the token of that `Begin` is consumed -/
  token : ∃ record, (run lib service steps .start).db.tokens (lib.sha256 init.token.toList)
      = some record ∧ record.state = .pending ∧
    (complete lib service call (run lib service steps .start)).2.db.tokens
      = Function.update (run lib service steps .start).db.tokens (lib.sha256 init.token.toList)
        (some { record with state := .consumed })
  baseline : host.baselineID = lib.sha256 submission.proof.baselineEvidence ∧
    host.baselineID = submission.proof.baselineDigest ∧
    ∃ controlled, Baseline.decode lib.baseline submission.proof.baselineEvidence = some controlled ∧
      Baseline.valid controlled = true
  assurance : host.assurance = .software ↔
    init.flow = flowSoftware ∧ softwareInitFieldsEmpty init = true
  tpmKeys : init.flow = flowTPM → host.ekPublic = init.ekPublic ∧ host.akPublic = init.akPublic ∧
    host.akName = init.akName
  /-- the secret was drawn for the two keys of that `Begin`, and the proof carries it -/
  activated : init.flow = flowTPM → ∃ activation, begun.secret = some activation.secret ∧
    Activation lib init activation ∧
    submission.proof.activatedCredential = activation.secret.toList
  /-- the attestation key has certified the identity key for this enrollment -/
  certified : init.flow = flowTPM → ∃ akPublic akKey identityArea identityPublic identityKey,
    decodeTPMPublic lib init.akPublic = some akPublic ∧ lib.publicKey akPublic = some akKey ∧
    decodeTPMPublic lib init.identityTPMPublic = some identityArea ∧
    lib.publicKey identityArea = some identityKey ∧
    parseIdentityCOSEKey host.identityCOSEKey = some identityKey ∧
    lib.encodePublic identityArea = some identityPublic ∧
    lib.verifyCertification identityPublic submission.proof.certifyAttestation
      submission.proof.certifySignature akKey = true ∧
    lib.extraData submission.proof.certifyAttestation = some (lib.sha256
      (ascii "PBNS-ENROLLMENT-CERTIFY-v1" ++ submission.proof.context.requestID.toList
        ++ submission.proof.serverNonce.toList ++ submission.proof.initDigest.toList
        ++ submission.proof.baselineDigest.toList)).toList
  receipt : ∃ signedReceipt receipt aad,
    (complete lib service call (run lib service steps .start)).1 = .ok signedReceipt ∧
    lib.signReceipt receipt aad call.salt = .ok signedReceipt ∧
    receipt.fingerprint = host.fingerprint ∧ receipt.context.hostFingerprint = host.fingerprint ∧
    receipt.assurance = host.assurance ∧ receipt.baselineDigest = host.baselineID ∧
    receipt.enrolledAtUnix = host.enrolledAtUnix

theorem proofMatchesSession_ok {proof : Proof} {envelope : EncryptedEnvelope}
    {session : PendingSession} {recipientKID : Octets}
    (h : proofMatchesSession proof envelope session recipientKID = true) :
    proof.context.requestID = session.requestID ∧ envelope.requestID = session.requestID ∧
      proof.context.hostFingerprint = session.fingerprint ∧
      proof.context.nonce = session.hostNonce ∧ envelope.hostNonce = session.hostNonce ∧
      proof.serverNonce = session.serverNonce ∧ proof.initDigest = session.initDigest ∧
      proof.baselineDigest = session.baselineDigest ∧ proof.flow = session.flow ∧
      proof.context.keyID = recipientKID := by
  simpa [proofMatchesSession, and_assoc] using h

variable (h : Checked lib service call plaintext init identityPublic serverNonce prepared)

include h

/-- What an init leads to, as a session. -/
theorem Checked.session_eq :
    prepared.token = init.token ∧ prepared.session.requestID = init.context.requestID ∧
      prepared.session.hostNonce = init.hostNonce ∧ prepared.session.serverNonce = serverNonce ∧
      prepared.session.initDigest = lib.sha256 plaintext ∧
      prepared.session.baselineDigest = init.initialEvidenceDigest ∧
      prepared.session.flow = init.flow ∧
      prepared.session.identityCOSEKey = init.identityCOSEKey ∧
      prepared.session.identityPublic = identityPublic ∧
      prepared.session.fingerprint = lib.sha256 init.identityCOSEKey := by
  rcases addEvidence_ok h.evidence with ⟨-, -, rfl⟩ | ⟨-, activation, assurance, digest, -, -, -, rfl⟩
  · exact ⟨rfl, rfl, rfl, rfl, rfl, rfl, rfl, rfl, rfl, rfl⟩
  · exact ⟨rfl, rfl, rfl, rfl, rfl, rfl, rfl, rfl, rfl, rfl⟩

omit h in
theorem flowTPM_ne : flowTPM ≠ flowSoftware := by decide

/-- The assurance is that of software exactly in the software flow. -/
theorem Checked.assurance_software :
    prepared.session.assurance = .software ↔
      init.flow = flowSoftware ∧ softwareInitFieldsEmpty init = true := by
  rcases addEvidence_ok h.evidence with
    ⟨hflow, hempty, rfl⟩ | ⟨hflow, activation, assurance, digest, -, -, hchain, rfl⟩
  · exact iff_of_true rfl ⟨hflow, hempty⟩
  · refine iff_of_false ?_ fun hsoftware => hflow hsoftware.1
    -- the verdict on a chain is never that of software
    obtain ⟨ekPublic, -, hverdict⟩ := Option.bind_eq_some_iff.mp hchain
    intro hassurance
    have : assurance = .software := hassurance
    split at hverdict <;> simp_all

/-- In the TPM flow the session has the keys of the init, and a secret made for them. -/
theorem Checked.session_tpm (hflow : init.flow = flowTPM) :
    prepared.session.ekPublic = init.ekPublic ∧ prepared.session.akPublic = init.akPublic ∧
      prepared.session.akName = init.akName ∧
      prepared.session.identityTPMPublic = init.identityTPMPublic ∧
      ∃ activation, call.secret = some activation.secret ∧ Activation lib init activation ∧
        prepared.session.activationSecret = activation.secret := by
  rcases addEvidence_ok h.evidence with
    ⟨hsoftware, -, -⟩ | ⟨-, activation, assurance, digest, hsecret, hmade, -, rfl⟩
  · exact absurd (hflow.symm.trans hsoftware) flowTPM_ne
  · exact ⟨rfl, rfl, rfl, rfl, activation, hsecret, hmade, rfl⟩

omit h

/-- The token a completion consumes is the one its pending record is bound to. -/
theorem Bound.consumed {created : List (Digest32 × HostRecord)} {db : Store.Database}
    (hsound : Store.Sound created db) {pending found : Store.Pending} (h : Store.Bound pending db)
    (hfound : db.pending pending.id = some found) : found.tokenDigest = pending.tokenDigest := by
  obtain ⟨hnonzero, record, htoken, hid, -⟩ := h
  obtain ⟨named, hnamed, hdigest⟩ := hsound.named _ record htoken (hid ▸ hnonzero)
  rw [hid, hfound] at hnamed
  obtain rfl := Option.some.inj hnamed
  exact hdigest

/-- **Every enrolled host has earned its record.**  In every run of the gateway, a host that
`Complete` stores belongs, with its proof, its token and its receipt, to one earlier `Begin`. -/
theorem hosts_earned (lib : Libraries ρ) (service : Service ρ) (steps : List Step)
    (call : CompleteCall) {fingerprint : Digest32} {host : HostRecord}
    (hnew : (run lib service steps .start).db.hosts fingerprint ≠ some host)
    (hstored : (complete lib service call (run lib service steps .start)).2.db.hosts fingerprint
      = some host) :
    host.fingerprint = fingerprint ∧ ∃ begun plaintext init serverNonce submission,
      Earned lib service steps call host begun plaintext init serverNonce submission := by
  have hgrounded : Grounded lib service steps (run lib service steps .start) := run_grounded steps
  rcases @complete_cases ρ lib service call (run lib service steps .start) with
    ⟨error, hcomplete⟩ | ⟨submission, receipt, hread, ⟨-, -, hcomplete⟩ |
      ⟨session, hsession, hcheck, hdone, hcomplete⟩⟩
  · rw [hcomplete] at hstored
    exact absurd hstored hnew
  · rw [hcomplete] at hstored
    exact absurd hstored hnew
  -- the session it used is what some `Begin` prepared
  obtain ⟨created, hsound⟩ := hgrounded.sound
  obtain ⟨-, begun, prepared, pending, ⟨haccepted, hready, rfl, hdigest⟩, hbound⟩ :=
    hgrounded.opened _ session hsession
  obtain ⟨plaintext, init, identityPublic, serverNonce, hchecked⟩ := prepareBegin_ok hready
  obtain ⟨htoken, hrequestID, hhostNonce, hserverNonce, hinitDigest, hbaseline, hflow, hkey, hpublic,
    hfingerprint⟩ := hchecked.session_eq
  have hshown := checkProof_ok hcheck
  obtain ⟨hmrequest, -, -, hmnonce, -, hmserver, hminit, hmbaseline, hmflow, -⟩ :=
    proofMatchesSession_ok hshown.matches_session
  -- the token it consumed is the one of that `Begin`
  obtain ⟨-, -, found, record, hcompletable, hdb⟩ := hostCall_done hdone
  obtain ⟨hpending, -, -, hrecord, hstate, -, -⟩ := Store.completable_ok hcompletable.token
  have hconsumed : found.tokenDigest = lib.sha256 init.token.toList := by
    rw [Bound.consumed hsound hbound hpending, hdigest, htoken]
  -- and the only host that is new is the one of the session
  have hhosts : Function.update (run lib service steps .start).db.hosts prepared.session.fingerprint
      (some (hostOf { prepared.session with pendingID := pending.id } call.now)) fingerprint
      = some host := by
    rw [hcomplete] at hstored
    dsimp only at hstored
    rw [hdb] at hstored
    exact hstored
  obtain ⟨rfl, rfl⟩ : fingerprint = prepared.session.fingerprint ∧
      host = hostOf { prepared.session with pendingID := pending.id } call.now := by
    by_cases hsame : fingerprint = prepared.session.fingerprint
    · subst hsame
      rw [Function.update_self] at hhosts
      exact ⟨rfl, (Option.some.inj hhosts).symm⟩
    · rw [Function.update_of_ne hsame] at hhosts
      exact absurd hhosts hnew
  refine ⟨rfl, begun, plaintext, init, serverNonce, submission, ?_⟩
  have hparsed : parseIdentityCOSEKey prepared.session.identityCOSEKey = some identityPublic := by
    rw [hkey, hchecked.key]
  have htpmFlow (htpm : init.flow = flowTPM) : prepared.session.flow ≠ flowSoftware :=
    fun hsoftware => flowTPM_ne (htpm.symm.trans (hflow.symm.trans hsoftware))
  obtain ⟨envelope, hopen, -⟩ := hchecked.opened
  obtain ⟨controlled, hdecoded⟩ := Option.isSome_iff_exists.mp hshown.decoded
  constructor
  case accepted => exact haccepted
  case message => exact ⟨hchecked.decoded, envelope, hopen⟩
  case drawn => exact hchecked.nonce.1
  case read => exact hread
  case fingerprint => exact hfingerprint.trans (congrArg lib.sha256 hkey.symm)
  case key => exact hkey
  case signed => exact ⟨identityPublic, hparsed, hpublic ▸ hshown.signed⟩
  case requestID => exact hmrequest.trans hrequestID
  case hostNonce => exact hmnonce.trans hhostNonce
  case challenge => exact hmserver.trans hserverNonce
  case initDigest => exact hminit.trans hinitDigest
  case baselineDigest => exact hmbaseline.trans hbaseline
  case flow => exact hmflow.trans hflow
  case token =>
    refine ⟨record, hconsumed ▸ hrecord, hstate, ?_⟩
    rw [hcomplete, ← hconsumed]
    dsimp only
    rw [hdb]
    rfl
  case baseline =>
    exact ⟨hshown.baseline.symm, hmbaseline.symm, controlled, hdecoded,
      Baseline.decode_valid hdecoded⟩
  case assurance => exact hchecked.assurance_software
  case tpmKeys =>
    intro htpm
    obtain ⟨hek, hak, hname, -⟩ := hchecked.session_tpm htpm
    exact ⟨hek, hak, hname⟩
  case activated =>
    intro htpm
    obtain ⟨-, -, -, -, activation, hsecret, hmade, hactivation⟩ := hchecked.session_tpm htpm
    exact ⟨activation, hsecret, hmade, hactivation ▸ hshown.activated (htpmFlow htpm)⟩
  case certified =>
    intro htpm
    obtain ⟨-, hak, -, hidentity, -⟩ := hchecked.session_tpm htpm
    obtain ⟨⟨akPublic, akKey, area, encoded, hdecode, hakKey, harea, hareaKey, hencode, hverify⟩,
      hextra⟩ := hshown.certified (htpmFlow htpm)
    refine ⟨akPublic, akKey, area, encoded, identityPublic, hak ▸ hdecode, hakKey,
      hidentity ▸ harea, hpublic ▸ hareaKey, hparsed, hencode, hverify, ?_⟩
    rw [hextra, certificationDigest, hmrequest, hmserver, hminit, hmbaseline]
  case receipt =>
    exact ⟨receipt, receiptOf service { prepared.session with pendingID := pending.id } call.now, _,
      by rw [hcomplete], hshown.receipt, rfl, rfl, rfl, rfl, rfl⟩

end Earned

/-! ### A run -/

/-- The ordinate of the inverse of the base point. -/
def inverseY : Octets :=
  [0xb0#8, 0x1c#8, 0xbd#8, 0x1c#8, 0x01#8, 0xe5#8, 0x80#8, 0x65#8,
    0x71#8, 0x18#8, 0x14#8, 0xb5#8, 0x83#8, 0xf0#8, 0x61#8, 0xe9#8,
    0xd4#8, 0x31#8, 0xcc#8, 0xa9#8, 0x94#8, 0xce#8, 0xa1#8, 0x31#8,
    0x34#8, 0x49#8, 0xbf#8, 0x97#8, 0xc8#8, 0x40#8, 0xae#8, 0x0a#8]

/-- The keys of two hosts: the base point and its inverse. -/
def sampleKey (host : Octet) : Octets :=
  if host = 1#8 then baseKey [0x02#8]
  else [0xa4#8, 0x01#8, 0x02#8, 0x20#8, 0x01#8, 0x21#8, 0x58#8, 0x20#8] ++ baseX
    ++ [0x22#8, 0x58#8, 0x20#8] ++ inverseY

/-- The last octets, in place of a digest. -/
def sampleHash (octets : Octets) : Digest32 :=
  ⟨(octets.reverse ++ List.replicate 32 1#8).take 32, by simp⟩

/-- The messages of a host under a request. -/
def sampleContext (host request : Octet) (stage sequence : ℕ) : CommonContext :=
  ⟨domain, 1, serviceEnrollment, List.Vector.replicate 16 request, sampleHash (sampleKey host),
    List.Vector.replicate 32 2#8, stage, sequence, [7#8]⟩

def sampleInit (host request : Octet) : Init :=
  ⟨sampleContext host request stageInit 0, List.Vector.replicate 32 host, [], [], [], [],
    sampleKey host, sampleHash [host], List.Vector.replicate 32 2#8, flowSoftware, [], [], [], []⟩

def sampleProof (host request : Octet) : Proof :=
  ⟨sampleContext host request stageProof 1, List.Vector.replicate 32 3#8,
    sampleHash [host, request, 0#8], [], [], [], sampleHash [host], [host], flowSoftware⟩

/-- Messages of three octets: the host, the request, and whether it is the proof.  The libraries
encode and sign nothing. -/
def sampleLibraries : Libraries Unit where
  sha256 := sampleHash
  decodeString _ := none
  encodeToString _ := ""
  baseline := {
    unmarshal := fun octets => some ⟨⟨1, List.Vector.replicate 32 1#8, true, false,
      List.Vector.replicate 32 1#8, List.Vector.replicate 32 1#8, List.Vector.replicate 32 1#8,
      ⟨0, 0, 0⟩⟩, (octetAt octets 0).toNat, 0, 0⟩
    marshal := fun controlled => some [BitVec.ofNat 8 controlled.memoryMiB] }
  decodeEnvelope octets := some ⟨List.Vector.replicate 16 (octetAt octets 1),
    List.Vector.replicate 32 2#8, [7#8], octets⟩
  decodeInit octets := some (sampleInit (octetAt octets 0) (octetAt octets 1))
  decodeSign1Proof octets := some (sampleProof (octetAt octets 0) (octetAt octets 1))
  decrypt ciphertext _ := some ciphertext
  verifySign1 _ _ _ := true
  signChallenge _ _ _ := .ok [9#8]
  signReceipt _ _ salt := .ok [10#8, BitVec.ofNat 8 salt]
  parsePKIXPublicKey _ := none
  parseCertificate _ := none
  verifyCertificate _ _ _ _ := false
  decodePublic _ := none
  encodePublic _ := none
  publicKey _ := none
  name _ := none
  generateCredential _ _ _ := none
  verifyCertification _ _ _ _ := false
  extraData _ := none

def sampleService : Service Unit := ⟨[7#8], [8#8], false, none⟩

def sampleCreate (host : Octet) : Step :=
  .store (.createEnrollment 3600000000000 1000000000 fun _ => some (List.Vector.replicate 32 host))

def sampleBegin (host request : Octet) : BeginCall :=
  ⟨[host, request, 0#8], some (List.Vector.replicate 32 3#8), none, 1000000000, 1000000000,
    1000000000, fun _ => some (List.Vector.replicate 16 host), 0⟩

def sampleComplete (host request : Octet) : CompleteCall :=
  ⟨[host, request, 1#8], 2000000000, 1000000000, 0⟩

/-- A host enrolls. -/
theorem hosts_earned_sample : ∃ host,
    (run sampleLibraries sampleService [sampleCreate 1#8, .begin (sampleBegin 1#8 1#8)]
        .start).db.hosts (sampleHash (sampleKey 1#8)) = none ∧
      (complete sampleLibraries sampleService (sampleComplete 1#8 1#8)
        (run sampleLibraries sampleService [sampleCreate 1#8, .begin (sampleBegin 1#8 1#8)]
          .start)).2.db.hosts (sampleHash (sampleKey 1#8)) = some host ∧
      ∃ begun plaintext init serverNonce submission,
        Earned sampleLibraries sampleService [sampleCreate 1#8, .begin (sampleBegin 1#8 1#8)]
          (sampleComplete 1#8 1#8) host begun plaintext init serverNonce submission := by
  have hnone : (run sampleLibraries sampleService
      [sampleCreate 1#8, .begin (sampleBegin 1#8 1#8)] .start).db.hosts
      (sampleHash (sampleKey 1#8)) = none := by decide +kernel
  have hsome : ((complete sampleLibraries sampleService (sampleComplete 1#8 1#8)
      (run sampleLibraries sampleService [sampleCreate 1#8, .begin (sampleBegin 1#8 1#8)]
        .start)).2.db.hosts (sampleHash (sampleKey 1#8))).isSome = true := by decide +kernel
  obtain ⟨host, hhost⟩ := Option.isSome_iff_exists.mp hsome
  exact ⟨host, hnone, hhost, (hosts_earned sampleLibraries sampleService _ _
    (fun hsame => Option.some_ne_none host (hsame.symm.trans hnone)) hhost).2⟩

end Pbns.Enrollment
