/-
Enrollment tokens (`gateway/internal/store/store.go`, `gateway/internal/token`): a token
is created live, bound to a transcript by a pending record, and consumed when the
enrollment of a host completes.

The clock, the random source, the digest and the text encoding are inputs.

* `Call.run_cases`, `Call.run_effect` — the things a call can do to the database;
* `Sound` and `Effect.sound` — tokens and pending records fit together;
* `enrollment_tokens_single_use` — histories of calls.
-/
import Pbns.GatewayStore
import Pbns.Guard

namespace Pbns.Store

open Octets Model Guard

/-! ### The operations -/

/-- The libraries: the digest and the text form of a secret. -/
structure Libraries where
  sha256 : Octets → Digest32
  decodeString : String → Option Octets
  encodeToString : Octets → String

/-- What a call to the random source returns, read after read. -/
abbrev Random (n : ℕ) := ℕ → Option (OctetArray n)

def maxTranscriptMismatches : ℕ := 4
def maxEnrollmentTTL : Int := 24 * 3600 * 1000000000
def maxBaselineBytes : ℕ := 4 * 1024 * 1024 + 4096
def maxReceiptBytes : ℕ := 65536
def tokenByteLength : ℕ := 32

section Operations

variable (lib : Libraries)

/-- `token.DigestSecret`. -/
def digestSecret (secret : Octets) : Option Digest32 :=
  if secret.length ≠ tokenByteLength then none else some (lib.sha256 secret)

/-- `token.Digest`. -/
def tokenDigest (plaintext : String) : Option Digest32 :=
  if plaintext = "" then none
  else
    match lib.decodeString plaintext with
    | none => none
    | some secret =>
      if secret.length ≠ tokenByteLength ∨ lib.encodeToString secret ≠ plaintext then none
      else some (lib.sha256 secret)

/-- What `token.Generate` issues. -/
structure Issued where
  plaintext : String
  digest : Digest32
  expiresAt : Time

/-- `token.Generate`. -/
def generate (random : Random 32) (expiresAt : Time) : Except Error Issued :=
  if expiresAt = Time.zero then .error .argument
  else
    match random 0 with
    | none => .error .entropy
    | some secret => .ok ⟨lib.encodeToString secret.toList, lib.sha256 secret.toList, expiresAt⟩

def createEnrollment (ttl : Int) (now : Time) (random : Random 32) (db : Database) :
    Except Error Issued × Database :=
  if ttl ≤ 0 ∨ maxEnrollmentTTL < ttl then (.error .argument, db)
  else if now = Time.zero ∨ Time.unix now ≤ 0 then (.error .argument, db)
  else
    match generate lib random (now + ttl) with
    | .error e => (.error e, db)
    | .ok issued =>
      match db.tokens issued.digest with
      | some _ => (.error .tokenCollision, db)
      | none => (.ok issued, { db with
          tokens := Function.update db.tokens issued.digest (some
            ⟨Time.unixNano issued.expiresAt, .live, List.Vector.replicate 16 0#8, 0⟩) })

/-- The tries of `newPendingID`. -/
def newPendingIDFrom (random : Random 16) (bucket : Identifier16 → Option Pending) :
    ℕ → ℕ → Except Error Identifier16
  | 0, _ => .error .tokenCollision
  | tries + 1, n =>
    match random n with
    | none => .error .entropy
    | some identifier =>
      if isZero identifier = false ∧ bucket identifier = none then .ok identifier
      else newPendingIDFrom random bucket tries (n + 1)

def newPendingID (random : Random 16) (bucket : Identifier16 → Option Pending) :
    Except Error Identifier16 :=
  newPendingIDFrom random bucket 4 0

/-- `beginEnrollmentDigest` with the clock read at `now` for the expiry and at `created`
for a new record. -/
def beginEnrollmentDigest (digest transcriptDigest : Digest32) (now created : Time)
    (random : Random 16) (db : Database) : Except Error Pending × Database :=
  if isZero transcriptDigest = true then (.error .argument, db)
  else
    match db.tokens digest with
    | none => (.error .tokenInvalid, db)
    | some record =>
      if record.state = .consumed then (.error .tokenConsumed, db)
      else if record.state = .revoked then (.error .tokenRevoked, db)
      else if record.expiresAtUnixNano ≤ Time.unixNano now then (.error .tokenExpired, db)
      else if isZero record.pendingID = false then
        match db.pending record.pendingID with
        | none => (.error .corrupt, db)
        | some pending =>
          if pending.tokenDigest ≠ digest then (.error .corrupt, db)
          else if pending.transcriptDigest = transcriptDigest then (.ok pending, db)
          else if maxTranscriptMismatches ≤ record.mismatchAttempts then (.error .rateLimited, db)
          else (.error .transcriptMismatch, { db with
            tokens := Function.update db.tokens digest (some
              { record with mismatchAttempts := record.mismatchAttempts + 1 }) })
      else
        match newPendingID random db.pending with
        | .error e => (.error e, db)
        | .ok id =>
          let pending : Pending :=
            ⟨id, digest, transcriptDigest, Time.unixNano created, false, 0⟩
          (.ok pending, { db with
            pending := Function.update db.pending id (some pending)
            tokens := Function.update db.tokens digest (some
              { record with state := .pending, pendingID := id }) })

def beginEnrollment (plaintext : String) (transcriptDigest : Digest32) (now created : Time)
    (random : Random 16) (db : Database) : Except Error Pending × Database :=
  match tokenDigest lib plaintext with
  | none => (.error .tokenInvalid, db)
  | some digest => beginEnrollmentDigest digest transcriptDigest now created random db

def beginEnrollmentSecret (secret : Octets) (transcriptDigest : Digest32) (now created : Time)
    (random : Random 16) (db : Database) : Except Error Pending × Database :=
  match digestSecret lib secret with
  | none => (.error .tokenInvalid, db)
  | some digest => beginEnrollmentDigest digest transcriptDigest now created random db

/-- The tests of `completeEnrollment`, up to the host: the pending record and its token. -/
def completable (pendingID : Identifier16) (now : Time) (db : Database) :
    Except Error (Pending × TokenRecord) :=
  match db.pending pendingID with
  | none => .error .notFound
  | some pending =>
    if pending.id ≠ pendingID ∨ pending.completed = true then .error .enrollmentComplete
    else
      match db.tokens pending.tokenDigest with
      | none => .error .corrupt
      | some record =>
        if record.state = .consumed then .error .tokenConsumed
        else if record.state = .revoked then .error .tokenRevoked
        else if record.state ≠ .pending then .error .corrupt
        else if record.pendingID ≠ pendingID then .error .corrupt
        else if record.expiresAtUnixNano ≤ Time.unixNano now then .error .tokenExpired
        else .ok (pending, record)

/-- The baseline and the receipt are stored, if there is evidence. -/
def putEvidence (host : HostRecord) (evidence : Option (Octets × Octets)) (db : Database) :
    Except Error Database :=
  match evidence with
  | none => .ok db
  | some (baseline, receipt) =>
    if (db.baselines host.baselineID).isSome = true then .error .hostExists
    else if (db.receipts host.fingerprint).isSome = true then .error .hostExists
    else .ok { db with
      baselines := Function.update db.baselines host.baselineID (some baseline)
      receipts := Function.update db.receipts host.fingerprint (some receipt) }

/-- The completed enrollment is stored, if there is one. -/
def putCompleted (completed : Option CompletedEnrollmentRecord) (db : Database) :
    Except Error Database :=
  match completed with
  | none => .ok db
  | some completed =>
    if (db.completedEnrollments completed.requestID).isSome = true then .error .hostExists
    else .ok { db with
      completedEnrollments :=
        Function.update db.completedEnrollments completed.requestID (some completed) }

/-- The transaction of `completeEnrollment`. -/
def completeTransaction (pendingID : Identifier16) (host : HostRecord)
    (evidence : Option (Octets × Octets)) (completed : Option CompletedEnrollmentRecord)
    (now : Time) (db : Database) : Except Error Database := do
  let (pending, record) ← completable pendingID now db
  rejectIf ((db.hosts host.fingerprint).isSome = true) .hostExists
  let db := { db with hosts := Function.update db.hosts host.fingerprint (some host) }
  let db ← putEvidence host evidence db
  let db ← putCompleted completed db
  return { db with
    pending := Function.update db.pending pending.id (some
      { pending with completed := true, completedAtUnixNano := Time.unixNano now })
    tokens := Function.update db.tokens pending.tokenDigest (some
      { record with state := .consumed }) }

def completeEnrollmentWith (pendingID : Identifier16) (host : HostRecord)
    (evidence : Option (Octets × Octets)) (completed : Option CompletedEnrollmentRecord)
    (now : Time) (db : Database) : Except Error Unit × Database :=
  if isZero pendingID = true ∨ host.validate = false then (.error .argument, db)
  else
    match completeTransaction pendingID host evidence completed now db with
    | .error e => (.error e, db)
    | .ok db => (.ok (), db)

def completeEnrollment (pendingID : Identifier16) (host : HostRecord) (now : Time)
    (db : Database) : Except Error Unit × Database :=
  completeEnrollmentWith pendingID host none none now db

/-- The arguments both forms with evidence refuse. -/
def evidenceRefused (host : HostRecord) (baseline receipt : Octets) : Bool :=
  decide (baseline.length = 0 ∨ maxBaselineBytes < baseline.length ∨ receipt.length = 0 ∨
    maxReceiptBytes < receipt.length ∨ lib.sha256 baseline ≠ host.baselineID)

def completeEnrollmentEvidence (pendingID : Identifier16) (host : HostRecord)
    (baseline receipt : Octets) (now : Time) (db : Database) : Except Error Unit × Database :=
  if evidenceRefused lib host baseline receipt = true then (.error .argument, db)
  else completeEnrollmentWith pendingID host (some (baseline, receipt)) none now db

def completeEnrollmentTranscript (pendingID : Identifier16) (host : HostRecord)
    (baseline receipt : Octets) (requestID : Identifier16) (envelopeDigest : Digest32) (now : Time)
    (db : Database) : Except Error Unit × Database :=
  if evidenceRefused lib host baseline receipt = true ∨ isZero requestID = true ∨
      isZero envelopeDigest = true then (.error .argument, db)
  else completeEnrollmentWith pendingID host (some (baseline, receipt))
    (some ⟨requestID, envelopeDigest, receipt⟩) now db

def revokeEnrollment (digest : Digest32) (db : Database) : Except Error Unit × Database :=
  if isZero digest = true then (.error .argument, db)
  else
    match db.tokens digest with
    | none => (.error .notFound, db)
    | some record =>
      if record.state = .consumed then (.error .tokenConsumed, db)
      else if record.state = .revoked then (.ok (), db)
      else (.ok (), { db with
        tokens := Function.update db.tokens digest (some { record with state := .revoked }) })

end Operations

/-! ### What a call does -/

/-- A call, with what the clock and the random source give it. -/
inductive Call
  | createEnrollment (ttl : Int) (now : Time) (random : Random 32)
  | beginEnrollment (plaintext : String) (transcriptDigest : Digest32) (now created : Time)
      (random : Random 16)
  | beginEnrollmentSecret (secret : Octets) (transcriptDigest : Digest32) (now created : Time)
      (random : Random 16)
  | completeEnrollment (pendingID : Identifier16) (host : HostRecord) (now : Time)
  | completeEnrollmentEvidence (pendingID : Identifier16) (host : HostRecord)
      (baseline receipt : Octets) (now : Time)
  | completeEnrollmentTranscript (pendingID : Identifier16) (host : HostRecord)
      (baseline receipt : Octets) (requestID : Identifier16) (envelopeDigest : Digest32) (now : Time)
  | revokeEnrollment (digest : Digest32)

inductive Outcome
  | issued (result : Except Error Issued)
  | begun (result : Except Error Pending)
  | done (result : Except Error Unit)

def Call.run (lib : Libraries) : Call → Database → Outcome × Database
  | .createEnrollment ttl now random, db =>
    (Store.createEnrollment lib ttl now random db).map .issued id
  | .beginEnrollment plaintext transcriptDigest now created random, db =>
    (Store.beginEnrollment lib plaintext transcriptDigest now created random db).map .begun id
  | .beginEnrollmentSecret secret transcriptDigest now created random, db =>
    (Store.beginEnrollmentSecret lib secret transcriptDigest now created random db).map .begun id
  | .completeEnrollment pendingID host now, db =>
    (Store.completeEnrollment pendingID host now db).map .done id
  | .completeEnrollmentEvidence pendingID host baseline receipt now, db =>
    (Store.completeEnrollmentEvidence lib pendingID host baseline receipt now db).map .done id
  | .completeEnrollmentTranscript pendingID host baseline receipt requestID envelopeDigest now, db =>
    (Store.completeEnrollmentTranscript lib pendingID host baseline receipt requestID envelopeDigest
      now db).map .done id
  | .revokeEnrollment digest, db => (Store.revokeEnrollment digest db).map .done id

/-- The enrollment a call is to complete, and the clock reading. -/
def Call.completion : Call → Option (Identifier16 × HostRecord × Time)
  | .completeEnrollment pendingID host now => some (pendingID, host, now)
  | .completeEnrollmentEvidence pendingID host _ _ now => some (pendingID, host, now)
  | .completeEnrollmentTranscript pendingID host _ _ _ _ now => some (pendingID, host, now)
  | _ => none

/-- The host a call created, with the digest of the token that led to it. -/
def Call.created (lib : Libraries) (call : Call) (db : Database) : List (Digest32 × HostRecord) :=
  match call.completion, (call.run lib db).1 with
  | some (pendingID, host, _), .done (.ok ()) =>
    ((db.pending pendingID).map fun pending => (pending.tokenDigest, host)).toList
  | _, _ => []

/-- The token can still be used. -/
def TokenRecord.Open (record : TokenRecord) : Prop :=
  record.state = .live ∨ record.state = .pending

/-- What can happen to the database in one call, with the hosts created. -/
inductive Effect (db : Database) : List (Digest32 × HostRecord) → Database → Prop
  | nothing : Effect db [] db
  | created {digest : Digest32} (expires : Int) (hnew : db.tokens digest = none) :
      Effect db [] { db with tokens := Function.update db.tokens digest (some
        ⟨expires, .live, List.Vector.replicate 16 0#8, 0⟩) }
  | mismatched {digest : Digest32} {record : TokenRecord} (htoken : db.tokens digest = some record)
      (hopen : record.Open) (hattempts : record.mismatchAttempts < maxTranscriptMismatches) :
      Effect db [] { db with tokens := Function.update db.tokens digest (some
        { record with mismatchAttempts := record.mismatchAttempts + 1 }) }
  | bound {digest : Digest32} {record : TokenRecord} (pending : Pending)
      (htoken : db.tokens digest = some record) (hopen : record.Open)
      (hunbound : isZero record.pendingID = true) (hid : isZero pending.id = false)
      (hfree : db.pending pending.id = none) (hdigest : pending.tokenDigest = digest)
      (hcompleted : pending.completed = false) :
      Effect db [] { db with
        pending := Function.update db.pending pending.id (some pending)
        tokens := Function.update db.tokens digest (some
          { record with state := .pending, pendingID := pending.id }) }
  | completed {pending : Pending} {record : TokenRecord} {host : HostRecord} {now : Time}
      (baselines receipts : Digest32 → Option Octets)
      (completedEnrollments : Identifier16 → Option CompletedEnrollmentRecord)
      (hpending : db.pending pending.id = some pending) (hcompleted : pending.completed = false)
      (htoken : db.tokens pending.tokenDigest = some record) (hstate : record.state = .pending)
      (hid : record.pendingID = pending.id) (hnow : Time.unixNano now < record.expiresAtUnixNano)
      (hhost : db.hosts host.fingerprint = none) :
      Effect db [(pending.tokenDigest, host)]
        { hosts := Function.update db.hosts host.fingerprint (some host)
          baselines, receipts, completedEnrollments
          pending := Function.update db.pending pending.id (some
            { pending with completed := true, completedAtUnixNano := Time.unixNano now })
          tokens := Function.update db.tokens pending.tokenDigest (some
            { record with state := .consumed }) }
  | revoked {digest : Digest32} {record : TokenRecord} (htoken : db.tokens digest = some record)
      (hopen : record.Open) :
      Effect db [] { db with tokens := Function.update db.tokens digest (some
        { record with state := .revoked }) }

theorem open_of_ne {record : TokenRecord} (hconsumed : ¬ record.state = .consumed)
    (hrevoked : ¬ record.state = .revoked) : record.Open := by
  rw [TokenRecord.Open]
  cases hs : record.state with
  | live => exact .inl rfl
  | pending => exact .inr rfl
  | consumed => exact absurd hs hconsumed
  | revoked => exact absurd hs hrevoked

/-- A completion a call is to make, and whether the call refuses its own arguments. -/
structure Completion where
  refused : Bool
  pendingID : Identifier16
  host : HostRecord
  evidence : Option (Octets × Octets)
  completed : Option CompletedEnrollmentRecord
  now : Time

def Call.completing (lib : Libraries) : Call → Option Completion
  | .completeEnrollment pendingID host now => some ⟨false, pendingID, host, none, none, now⟩
  | .completeEnrollmentEvidence pendingID host baseline receipt now =>
    some ⟨evidenceRefused lib host baseline receipt, pendingID, host, some (baseline, receipt), none, now⟩
  | .completeEnrollmentTranscript pendingID host baseline receipt requestID envelopeDigest now =>
    some ⟨decide (evidenceRefused lib host baseline receipt = true ∨ isZero requestID = true ∨
      isZero envelopeDigest = true), pendingID, host, some (baseline, receipt),
      some ⟨requestID, envelopeDigest, receipt⟩, now⟩
  | _ => none

/-- The token a call is about, by its digest. -/
def Call.token (lib : Libraries) (db : Database) : Call → Option Digest32
  | .createEnrollment ttl now random =>
    match generate lib random (now + ttl) with
    | .ok issued => some issued.digest
    | .error _ => none
  | .beginEnrollment plaintext _ _ _ _ => tokenDigest lib plaintext
  | .beginEnrollmentSecret secret _ _ _ _ => digestSecret lib secret
  | .completeEnrollment pendingID _ _ => (db.pending pendingID).map (·.tokenDigest)
  | .completeEnrollmentEvidence pendingID _ _ _ _ => (db.pending pendingID).map (·.tokenDigest)
  | .completeEnrollmentTranscript pendingID _ _ _ _ _ _ => (db.pending pendingID).map (·.tokenDigest)
  | .revokeEnrollment digest => some digest

section Completion

variable (host : HostRecord) (evidence : Option (Octets × Octets))
  (completed : Option CompletedEnrollmentRecord)

/-- The three buckets behind a completion that a host may already be in. -/
def baselinesWith (baselines : Digest32 → Option Octets) : Digest32 → Option Octets :=
  match evidence with
  | none => baselines
  | some (baseline, _) => Function.update baselines host.baselineID (some baseline)

def receiptsWith (receipts : Digest32 → Option Octets) : Digest32 → Option Octets :=
  match evidence with
  | none => receipts
  | some (_, receipt) => Function.update receipts host.fingerprint (some receipt)

def completedWith (completedEnrollments : Identifier16 → Option CompletedEnrollmentRecord) :
    Identifier16 → Option CompletedEnrollmentRecord :=
  match completed with
  | none => completedEnrollments
  | some completed => Function.update completedEnrollments completed.requestID (some completed)

/-- What a completion leaves, given the pending record and the token it found. -/
def completedDatabase (pending : Pending) (record : TokenRecord) (now : Time) (db : Database) :
    Database where
  hosts := Function.update db.hosts host.fingerprint (some host)
  baselines := baselinesWith host evidence db.baselines
  receipts := receiptsWith host evidence db.receipts
  completedEnrollments := completedWith completed db.completedEnrollments
  pending := Function.update db.pending pending.id (some
    { pending with completed := true, completedAtUnixNano := Time.unixNano now })
  tokens := Function.update db.tokens pending.tokenDigest (some { record with state := .consumed })

variable {host evidence completed}
variable {db db' : Database}

theorem putEvidence_eq_ok : putEvidence host evidence db = .ok db' ↔
    (evidence.isSome = true → db.baselines host.baselineID = none ∧ db.receipts host.fingerprint = none)
      ∧ db' = { db with
        baselines := baselinesWith host evidence db.baselines
        receipts := receiptsWith host evidence db.receipts } := by
  cases evidence with
  | none => exact ⟨fun h => ⟨nofun, (Except.ok.inj h).symm⟩, fun h => congrArg Except.ok h.2.symm⟩
  | some pair =>
    rw [putEvidence]
    split_ifs with hbaseline hreceipt
    · simp [Option.isSome_iff_ne_none.mp hbaseline]
    · simp [Option.isSome_iff_ne_none.mp hreceipt]
    · rw [Option.not_isSome_iff_eq_none] at hbaseline hreceipt
      simp [hbaseline, hreceipt, baselinesWith, receiptsWith, eq_comm]

theorem putCompleted_eq_ok : putCompleted completed db = .ok db' ↔
    (∀ c, completed = some c → db.completedEnrollments c.requestID = none)
      ∧ db' = { db with
        completedEnrollments := completedWith completed db.completedEnrollments } := by
  cases completed with
  | none => exact ⟨fun h => ⟨nofun, (Except.ok.inj h).symm⟩, fun h => congrArg Except.ok h.2.symm⟩
  | some completed =>
    rw [putCompleted]
    split_ifs with hfree
    · simp [Option.isSome_iff_ne_none.mp hfree]
    · rw [Option.not_isSome_iff_eq_none] at hfree
      simp [hfree, completedWith, eq_comm]

/-- What a completion has to find to be accepted. -/
structure Completable (host : HostRecord) (evidence : Option (Octets × Octets))
    (completed : Option CompletedEnrollmentRecord) (pendingID : Identifier16) (now : Time)
    (pending : Pending) (record : TokenRecord) (db : Database) : Prop where
  token : completable pendingID now db = .ok (pending, record)
  newHost : db.hosts host.fingerprint = none
  newEvidence : evidence.isSome = true →
    db.baselines host.baselineID = none ∧ db.receipts host.fingerprint = none
  newRequest : ∀ c, completed = some c → db.completedEnrollments c.requestID = none

theorem completeTransaction_eq_ok {pendingID : Identifier16} {now : Time} :
    completeTransaction pendingID host evidence completed now db = .ok db' ↔ ∃ pending record,
      Completable host evidence completed pendingID now pending record db
        ∧ db' = completedDatabase host evidence completed pending record now db := by
  simp only [completeTransaction, bind_eq_ok, Prod.exists, rejectIf_eq_ok, exists_const,
    Option.not_isSome_iff_eq_none, putEvidence_eq_ok, putCompleted_eq_ok]
  constructor
  · rintro ⟨pending, record, htoken, hhost, _, ⟨hevidence, rfl⟩, _, ⟨hrequest, rfl⟩, h⟩
    exact ⟨pending, record, ⟨htoken, hhost, hevidence, hrequest⟩, (Except.ok.inj h).symm⟩
  · rintro ⟨pending, record, h, rfl⟩
    exact ⟨pending, record, h.token, h.newHost, _, ⟨h.newEvidence, rfl⟩, _, ⟨h.newRequest, rfl⟩, rfl⟩

variable {pendingID : Identifier16} {now : Time} {pending : Pending} {record : TokenRecord}

/-- A completion is refused and changes nothing, or is accepted. -/
theorem completeEnrollmentWith_cases {result : Except Error Unit}
    (h : completeEnrollmentWith pendingID host evidence completed now db = (result, db')) :
    (∃ e, result = .error e ∧ db' = db) ∨
      result = .ok () ∧ isZero pendingID = false ∧ host.validate = true ∧ ∃ pending record,
        Completable host evidence completed pendingID now pending record db
          ∧ db' = completedDatabase host evidence completed pending record now db := by
  rw [completeEnrollmentWith] at h
  split_ifs at h with hargument
  · cases h
    exact .inl ⟨_, rfl, rfl⟩
  · simp only [not_or, Bool.not_eq_true, Bool.not_eq_false] at hargument
    split at h <;> cases h
    · exact .inl ⟨_, rfl, rfl⟩
    · exact .inr ⟨rfl, hargument.1, hargument.2, completeTransaction_eq_ok.mp ‹_›⟩

theorem completeEnrollmentWith_ok (hid : isZero pendingID = false) (hvalid : host.validate = true)
    (h : Completable host evidence completed pendingID now pending record db) :
    completeEnrollmentWith pendingID host evidence completed now db
      = (.ok (), completedDatabase host evidence completed pending record now db) := by
  rw [completeEnrollmentWith, if_neg (by simp [hid, hvalid]),
    completeTransaction_eq_ok.mpr ⟨pending, record, h, rfl⟩]

/-- A completion that was made. -/
structure Completion.Done (c : Completion) (pending : Pending) (record : TokenRecord)
    (db db' : Database) : Prop where
  accepted : c.refused = false
  id : isZero c.pendingID = false
  valid : c.host.validate = true
  found : Completable c.host c.evidence c.completed c.pendingID c.now pending record db
  left : db' = completedDatabase c.host c.evidence c.completed pending record c.now db

end Completion

/-- What a call can do that completes nothing: it is about one token, if any. -/
structure EffectAt (token : Option Digest32) (db db' : Database) : Prop where
  effect : Effect db [] db'
  tokens : ∀ d, token ≠ some d → db'.tokens d = db.tokens d

section Effects

variable {lib : Libraries} {db db' : Database}

theorem EffectAt.nothing {token : Option Digest32} : EffectAt token db db :=
  ⟨.nothing, fun _ _ => rfl⟩

theorem EffectAt.update {digest : Digest32} {record : Option TokenRecord} (h : Effect db [] db')
    (htokens : db'.tokens = Function.update db.tokens digest record) : EffectAt (some digest) db db' := by
  refine ⟨h, fun d hd => ?_⟩
  rw [htokens]
  exact Function.update_of_ne (fun heq => hd (congrArg some heq.symm)) _ _

theorem createEnrollment_effect (ttl : Int) (now : Time) (random : Random 32) :
    EffectAt ((Call.createEnrollment ttl now random).token lib db) db
      (createEnrollment lib ttl now random db).2 := by
  rw [createEnrollment]
  split
  · exact .nothing
  split
  · exact .nothing
  rw [Call.token]
  cases generate lib random (now + ttl) with
  | error e => exact .nothing
  | ok issued =>
    cases htoken : db.tokens issued.digest with
    | some record => simp only [htoken]; exact .nothing
    | none => simp only [htoken]; exact .update (.created _ htoken) rfl

theorem newPendingIDFrom_ok {random : Random 16} {bucket : Identifier16 → Option Pending}
    {tries n : ℕ} {id : Identifier16} (h : newPendingIDFrom random bucket tries n = .ok id) :
    isZero id = false ∧ bucket id = none := by
  induction tries generalizing n with
  | zero => exact absurd h (by simp [newPendingIDFrom])
  | succ tries ih =>
    rw [newPendingIDFrom] at h
    split at h
    · simp at h
    · split at h
      · rename_i hid
        obtain rfl := Except.ok.inj h
        exact hid
      · exact ih h

theorem beginEnrollmentDigest_effect (digest transcriptDigest : Digest32) (now created : Time)
    (random : Random 16) :
    EffectAt (some digest) db (beginEnrollmentDigest digest transcriptDigest now created random db).2 := by
  rw [beginEnrollmentDigest]
  split
  · exact .nothing
  cases htoken : db.tokens digest with
  | none => exact .nothing
  | some record =>
    dsimp only
    split
    · exact .nothing
    rename_i hconsumed
    split
    · exact .nothing
    rename_i hrevoked
    have hopen := open_of_ne hconsumed hrevoked
    split
    · exact .nothing
    split
    · -- the token is bound
      cases db.pending record.pendingID with
      | none => exact .nothing
      | some pending =>
        dsimp only
        split
        · exact .nothing
        split
        · exact .nothing
        split
        · exact .nothing
        · exact .update (.mismatched htoken hopen (Nat.not_le.mp ‹_›)) rfl
    · rename_i hunbound
      rw [Bool.not_eq_false] at hunbound
      cases hid : newPendingID random db.pending with
      | error e => exact .nothing
      | ok id =>
        obtain ⟨hid, hfree⟩ := newPendingIDFrom_ok hid
        exact .update (.bound ⟨id, digest, transcriptDigest, Time.unixNano created, false, 0⟩ htoken
          hopen hunbound hid hfree rfl rfl) rfl

theorem revokeEnrollment_effect (digest : Digest32) :
    EffectAt (some digest) db (revokeEnrollment digest db).2 := by
  rw [revokeEnrollment]
  split
  · exact .nothing
  cases htoken : db.tokens digest with
  | none => exact .nothing
  | some record =>
    dsimp only
    split
    · exact .nothing
    split
    · exact .nothing
    · exact .update (.revoked htoken (open_of_ne ‹_› ‹_›)) rfl

variable {pendingID : Identifier16} {now : Time}

theorem completable_ok {pending : Pending} {record : TokenRecord}
    (h : completable pendingID now db = .ok (pending, record)) :
    db.pending pendingID = some pending ∧ pending.id = pendingID ∧ pending.completed = false ∧
      db.tokens pending.tokenDigest = some record ∧ record.state = .pending ∧
      record.pendingID = pendingID ∧ Time.unixNano now < record.expiresAtUnixNano := by
  rw [completable] at h
  cases hpending : db.pending pendingID with
  | none => simp [hpending] at h
  | some found =>
    simp only [hpending] at h
    split at h
    · simp at h
    rename_i hfound
    rw [not_or, not_not, Bool.not_eq_true] at hfound
    cases htoken : db.tokens found.tokenDigest with
    | none => simp [htoken] at h
    | some token =>
      simp only [htoken] at h
      split_ifs at h with hconsumed hrevoked hstate hid hnow
      obtain ⟨rfl, rfl⟩ := Prod.mk.inj (Except.ok.inj h)
      exact ⟨rfl, hfound.1, hfound.2, htoken, not_not.mp hstate, not_not.mp hid, Int.not_le.mp hnow⟩

theorem Completion.Done.effect {c : Completion} {pending : Pending} {record : TokenRecord}
    (h : c.Done pending record db db') : Effect db [(pending.tokenDigest, c.host)] db' := by
  obtain ⟨hpending, hid, hcompleted, htoken, hstate, htokenID, hnow⟩ := completable_ok h.found.token
  rw [h.left]
  rw [← hid] at hpending htokenID
  exact .completed _ _ _ hpending hcompleted htoken hstate htokenID hnow h.found.newHost

variable {call : Call} {c : Completion}

theorem Call.completion_eq (lib : Libraries) (call : Call) :
    call.completion = (call.completing lib).map fun c => (c.pendingID, c.host, c.now) := by
  cases call <;> rfl

theorem Call.token_of_completing (h : call.completing lib = some c) :
    call.token lib db = (db.pending c.pendingID).map (·.tokenDigest) := by
  cases call <;> cases h <;> rfl

theorem Call.run_completing (h : call.completing lib = some c) (db : Database) :
    call.run lib db = if c.refused = true then (.done (.error .argument), db) else
      (completeEnrollmentWith c.pendingID c.host c.evidence c.completed c.now db).map .done id := by
  cases call <;> cases h
  · rfl
  · simp only [Call.run, Store.completeEnrollmentEvidence]
    split_ifs <;> rfl
  · simp only [Call.run, Store.completeEnrollmentTranscript, decide_eq_true_eq]
    split_ifs <;> rfl

theorem Completion.Done.run {pending : Pending} {record : TokenRecord}
    (h : c.Done pending record db db') (hcall : call.completing lib = some c) :
    call.run lib db = (.done (.ok ()), db') := by
  rw [Call.run_completing hcall, if_neg (by simp [h.accepted]),
    completeEnrollmentWith_ok h.id h.valid h.found, h.left]
  rfl

/-- **Everything a call can do.** -/
theorem Call.run_cases {outcome : Outcome} (hrun : call.run lib db = (outcome, db')) :
    (call.completing lib = none ∧ EffectAt (call.token lib db) db db') ∨
      ∃ c, call.completing lib = some c ∧
        ((∃ e, outcome = .done (.error e) ∧ db' = db) ∨
          outcome = .done (.ok ()) ∧ ∃ pending record, c.Done pending record db db') := by
  cases hcall : call.completing lib with
  | some c =>
    refine .inr ⟨c, rfl, ?_⟩
    rw [Call.run_completing hcall] at hrun
    split_ifs at hrun with hrefused
    · cases hrun
      exact .inl ⟨_, rfl, rfl⟩
    · cases hwith : completeEnrollmentWith c.pendingID c.host c.evidence c.completed c.now db
      rw [hwith] at hrun
      cases hrun
      obtain ⟨e, rfl, rfl⟩ | ⟨rfl, hid, hvalid, pending, record, hfound, hleft⟩ :=
        completeEnrollmentWith_cases hwith
      · exact .inl ⟨e, rfl, rfl⟩
      · exact .inr ⟨rfl, pending, record, Bool.of_not_eq_true hrefused, hid, hvalid, hfound, hleft⟩
  | none =>
    obtain rfl : (call.run lib db).2 = db' := congrArg Prod.snd hrun
    refine .inl ⟨rfl, ?_⟩
    cases call with
    | createEnrollment ttl now random => exact createEnrollment_effect ttl now random
    | beginEnrollment plaintext transcriptDigest now created random =>
      simp only [Call.run, Store.beginEnrollment, Call.token]
      cases tokenDigest lib plaintext with
      | none => exact .nothing
      | some digest => exact beginEnrollmentDigest_effect digest transcriptDigest now created random
    | beginEnrollmentSecret secret transcriptDigest now created random =>
      simp only [Call.run, Store.beginEnrollmentSecret, Call.token]
      cases digestSecret lib secret with
      | none => exact .nothing
      | some digest => exact beginEnrollmentDigest_effect digest transcriptDigest now created random
    | revokeEnrollment digest => exact revokeEnrollment_effect digest
    | completeEnrollment => cases hcall
    | completeEnrollmentEvidence => cases hcall
    | completeEnrollmentTranscript => cases hcall

/-- **The effect of a call.** -/
theorem Call.run_effect (call : Call) : Effect db (call.created lib db) (call.run lib db).2 := by
  obtain ⟨⟨outcome, db'⟩, hrun⟩ : ∃ result, call.run lib db = result := ⟨_, rfl⟩
  rw [Call.created, Call.completion_eq lib, hrun]
  obtain ⟨hnone, heffect⟩ | ⟨c, hc, ⟨e, rfl, rfl⟩ | ⟨rfl, pending, record, hdone⟩⟩ := Call.run_cases hrun
  · rw [hnone]
    exact heffect.effect
  · rw [hc]
    exact .nothing
  · rw [hc]
    dsimp only [Option.map_some]
    rw [(completable_ok hdone.found.token).1]
    exact hdone.effect

end Effects

/-! ### The invariant -/

/-- Tokens and pending records fit together, and the hosts are those that were created. -/
structure Sound (created : List (Digest32 × HostRecord)) (db : Database) : Prop where
  live : ∀ d r, db.tokens d = some r → r.state = .live → isZero r.pendingID = true
  used : ∀ d r, db.tokens d = some r → r.state = .pending ∨ r.state = .consumed →
    isZero r.pendingID = false
  named : ∀ d r, db.tokens d = some r → isZero r.pendingID = false →
    ∃ p, db.pending r.pendingID = some p ∧ p.tokenDigest = d
  owned : ∀ id p, db.pending id = some p → p.id = id ∧ isZero id = false ∧
    ∃ r, db.tokens p.tokenDigest = some r ∧ r.pendingID = id ∧
      (p.completed = true ↔ r.state = .consumed)
  mismatches : ∀ d r, db.tokens d = some r → r.mismatchAttempts ≤ maxTranscriptMismatches
  hosts : ∀ fingerprint host, db.hosts fingerprint = some host ↔
    ∃ d, (d, host) ∈ created ∧ host.fingerprint = fingerprint
  consumed : ∀ d host, (d, host) ∈ created → ∃ r, db.tokens d = some r ∧ r.state = .consumed
  once : (created.map Prod.fst).Nodup

section Invariant

variable {L L' : List (Digest32 × HostRecord)} {db db' : Database}

/-- What is so of one token. -/
structure TokenFits (pending : Identifier16 → Option Pending) (d : Digest32) (r : TokenRecord) : Prop where
  live : r.state = .live → isZero r.pendingID = true
  used : r.state = .pending ∨ r.state = .consumed → isZero r.pendingID = false
  named : isZero r.pendingID = false → ∃ p, pending r.pendingID = some p ∧ p.tokenDigest = d
  mismatches : r.mismatchAttempts ≤ maxTranscriptMismatches

variable {d : Digest32} {r r' : TokenRecord} {p : Pending}

theorem Sound.fits (h : Sound L db) (htoken : db.tokens d = some r) : TokenFits db.pending d r :=
  ⟨h.live d r htoken, h.used d r htoken, h.named d r htoken, h.mismatches d r htoken⟩

theorem Sound.of_fits (hfits : ∀ d r, db.tokens d = some r → TokenFits db.pending d r)
    (howned : ∀ id p, db.pending id = some p → p.id = id ∧ isZero id = false ∧
      ∃ r, db.tokens p.tokenDigest = some r ∧ r.pendingID = id ∧
        (p.completed = true ↔ r.state = .consumed))
    (hhosts : ∀ fingerprint host, db.hosts fingerprint = some host ↔
      ∃ d, (d, host) ∈ L ∧ host.fingerprint = fingerprint)
    (hconsumed : ∀ d host, (d, host) ∈ L → ∃ r, db.tokens d = some r ∧ r.state = .consumed)
    (honce : (L.map Prod.fst).Nodup) : Sound L db where
  live d r ht := (hfits d r ht).live
  used d r ht := (hfits d r ht).used
  named d r ht := (hfits d r ht).named
  owned := howned
  mismatches d r ht := (hfits d r ht).mismatches
  hosts := hhosts
  consumed := hconsumed
  once := honce

theorem Sound.empty : Sound [] Database.empty :=
  .of_fits (by nofun) (by nofun) (by simp [Database.empty]) (by nofun) List.nodup_nil

section Update

variable {κ ρ : Type} [DecidableEq κ] {f : κ → Option ρ} {k k' : κ} {v v' : ρ}

/-- A lookup after a change of one entry. -/
theorem update_eq_some (h : Function.update f k (some v) k' = some v') :
    (k' = k ∧ v' = v) ∨ (k' ≠ k ∧ f k' = some v') := by
  by_cases hk : k' = k
  · subst hk
    rw [Function.update_self] at h
    exact .inl ⟨rfl, (Option.some.inj h).symm⟩
  · rw [Function.update_of_ne hk] at h
    exact .inr ⟨hk, h⟩

/-- What is there stays when an entry is added. -/
theorem update_new (hnew : f k = none) (h : f k' = some v') :
    Function.update f k (some v) k' = some v' := by
  refine (Function.update_of_ne ?_ _ _).trans h
  rintro rfl
  cases hnew.symm.trans h

end Update

/-- The record of a token changes, but not the pending record it names. -/
theorem Sound.retoken (h : Sound L db) (htoken : db.tokens d = some r)
    (hid : r'.pendingID = r.pendingID)
    (hstate : r'.state = r.state ∨ r'.state = .revoked ∧ r.state ≠ .consumed)
    (hmismatches : r'.mismatchAttempts ≤ maxTranscriptMismatches) :
    Sound L { db with tokens := Function.update db.tokens d (some r') } := by
  refine .of_fits (fun d' t ht => ?_) (fun id p hp => ?_) h.hosts (fun d' host hmem => ?_) h.once
  · rcases update_eq_some ht with ⟨rfl, rfl⟩ | ⟨-, ht⟩
    · obtain ⟨hlive, hused, hnamed, -⟩ := h.fits htoken
      rw [← hid] at hlive hused hnamed
      rcases hstate with hstate | ⟨hstate, -⟩
      · rw [← hstate] at hlive hused
        exact ⟨hlive, hused, hnamed, hmismatches⟩
      · exact ⟨by simp [hstate], by simp [hstate], hnamed, hmismatches⟩
    · exact h.fits ht
  · obtain ⟨hpid, hnonzero, t, ht, htid, hcompleted⟩ := h.owned id p hp
    refine ⟨hpid, hnonzero, ?_⟩
    by_cases hd : p.tokenDigest = d
    · rw [hd] at ht
      obtain rfl := Option.some.inj (htoken.symm.trans ht)
      refine ⟨r', by rw [hd]; exact Function.update_self _ _ _, hid.trans htid, ?_⟩
      rcases hstate with hstate | ⟨hstate, hne⟩
      · rw [hstate]
        exact hcompleted
      · rw [hcompleted, hstate]
        exact ⟨fun hc => absurd hc hne, fun hc => absurd hc (by decide)⟩
    · exact ⟨t, (Function.update_of_ne hd _ _).trans ht, htid, hcompleted⟩
  · obtain ⟨t, ht, hconsumed⟩ := h.consumed d' host hmem
    by_cases hd : d' = d
    · subst hd
      obtain rfl := Option.some.inj (htoken.symm.trans ht)
      rcases hstate with hstate | ⟨-, hne⟩
      · exact ⟨r', Function.update_self _ _ _, hstate.trans hconsumed⟩
      · exact absurd hconsumed hne
    · exact ⟨t, (Function.update_of_ne hd _ _).trans ht, hconsumed⟩

theorem not_open_of_closed (hclosed : r.state = .consumed ∨ r.state = .revoked) :
    ¬ r.Open := by
  rintro (h | h) <;> rw [h] at hclosed <;> exact absurd hclosed (by decide)

/-- A change of an open token leaves the closed ones alone. -/
theorem update_closed {d' : Digest32} {v : TokenRecord} (hopen : r.Open)
    (htoken : db.tokens d = some r) (h : db.tokens d' = some r')
    (hclosed : r'.state = .consumed ∨ r'.state = .revoked) :
    Function.update db.tokens d (some v) d' = some r' := by
  have hd : d' ≠ d := by
    rintro rfl
    obtain rfl := Option.some.inj (htoken.symm.trans h)
    exact not_open_of_closed hclosed hopen
  exact (Function.update_of_ne hd _ _).trans h

theorem isZero_replicate : isZero (List.Vector.replicate 16 0#8) = true := by decide

/-- A new token. -/
theorem Sound.newToken (h : Sound L db) (hnew : db.tokens d = none) (expires : Int) :
    Sound L { db with tokens := Function.update db.tokens d (some
      ⟨expires, .live, List.Vector.replicate 16 0#8, 0⟩) } := by
  refine .of_fits (fun d' t ht => ?_) (fun id p hp => ?_) h.hosts (fun d' host hmem => ?_) h.once
  · rcases update_eq_some ht with ⟨rfl, rfl⟩ | ⟨-, ht⟩
    · exact ⟨fun _ => isZero_replicate, by simp,
        fun h => absurd (isZero_replicate.symm.trans h) (by simp), Nat.zero_le _⟩
    · exact h.fits ht
  · obtain ⟨hpid, hnonzero, t, ht, hrest⟩ := h.owned id p hp
    exact ⟨hpid, hnonzero, t, update_new hnew ht, hrest⟩
  · obtain ⟨t, ht, hconsumed⟩ := h.consumed d' host hmem
    exact ⟨t, update_new hnew ht, hconsumed⟩

/-- A token is bound to a new pending record. -/
theorem Sound.bound (h : Sound L db) (htoken : db.tokens p.tokenDigest = some r) (hopen : r.Open)
    (hunbound : isZero r.pendingID = true) (hid : isZero p.id = false)
    (hfree : db.pending p.id = none) (hcompleted : p.completed = false) :
    Sound L { db with
      pending := Function.update db.pending p.id (some p)
      tokens := Function.update db.tokens p.tokenDigest (some
        { r with state := .pending, pendingID := p.id }) } := by
  refine .of_fits (fun d' t ht => ?_) (fun id q hq => ?_) h.hosts (fun d' host hmem => ?_) h.once
  · rcases update_eq_some ht with ⟨rfl, rfl⟩ | ⟨-, ht⟩
    · exact ⟨by simp, fun _ => hid, fun _ => ⟨p, Function.update_self _ _ _, rfl⟩,
        h.mismatches _ r htoken⟩
    · obtain ⟨hlive, hused, hnamed, hmismatches⟩ := h.fits ht
      refine ⟨hlive, hused, fun hnonzero => ?_, hmismatches⟩
      obtain ⟨q, hq, hdigest⟩ := hnamed hnonzero
      exact ⟨q, update_new hfree hq, hdigest⟩
  · rcases update_eq_some hq with ⟨rfl, rfl⟩ | ⟨-, hq⟩
    · exact ⟨rfl, hid, _, Function.update_self _ _ _, rfl, by simp [hcompleted]⟩
    · obtain ⟨hqid, hnonzero, t, ht, htid, hrest⟩ := h.owned id q hq
      -- the token of another record is bound already
      have hd : q.tokenDigest ≠ p.tokenDigest := by
        intro heq
        rw [heq, htoken] at ht
        obtain rfl := Option.some.inj ht
        rw [htid, hnonzero] at hunbound
        cases hunbound
      exact ⟨hqid, hnonzero, t, (Function.update_of_ne hd _ _).trans ht, htid, hrest⟩
  · obtain ⟨t, ht, hconsumed⟩ := h.consumed d' host hmem
    exact ⟨t, update_closed hopen htoken ht (.inl hconsumed), hconsumed⟩

/-- An enrollment is completed. -/
theorem Sound.completed (h : Sound L db) {host : HostRecord} {completedAt : Int}
    (baselines receipts : Digest32 → Option Octets)
    (completedEnrollments : Identifier16 → Option CompletedEnrollmentRecord)
    (hpending : db.pending p.id = some p) (htoken : db.tokens p.tokenDigest = some r)
    (hstate : r.state = .pending) (hhost : db.hosts host.fingerprint = none) :
    Sound (L ++ [(p.tokenDigest, host)])
      { hosts := Function.update db.hosts host.fingerprint (some host)
        baselines, receipts, completedEnrollments
        pending := Function.update db.pending p.id (some
          { p with completed := true, completedAtUnixNano := completedAt })
        tokens := Function.update db.tokens p.tokenDigest (some
          { r with state := .consumed }) } := by
  -- a token still finds its record
  have hnamed : ∀ {d id}, (isZero id = false → ∃ q, db.pending id = some q ∧ q.tokenDigest = d) →
      isZero id = false → ∃ q, Function.update db.pending p.id (some
        { p with completed := true, completedAtUnixNano := completedAt }) id = some q ∧
          q.tokenDigest = d := by
    intro d id hold hnonzero
    obtain ⟨q, hq, hdigest⟩ := hold hnonzero
    by_cases hqid : id = p.id
    · rw [hqid, hpending] at hq
      obtain rfl := Option.some.inj hq
      rw [hqid]
      exact ⟨_, Function.update_self _ _ _, hdigest⟩
    · exact ⟨q, (Function.update_of_ne hqid _ _).trans hq, hdigest⟩
  refine .of_fits (fun d' t ht => ?_) (fun id q hq => ?_) (fun fingerprint other => ?_)
    (fun d' other hmem => ?_) ?_
  · rcases update_eq_some ht with ⟨rfl, rfl⟩ | ⟨-, ht⟩
    · have hfits := h.fits htoken
      exact ⟨by simp, fun _ => hfits.used (.inl hstate), hnamed hfits.named, hfits.mismatches⟩
    · have hfits := h.fits ht
      exact ⟨hfits.live, hfits.used, hnamed hfits.named, hfits.mismatches⟩
  · rcases update_eq_some hq with ⟨rfl, rfl⟩ | ⟨hne, hq⟩
    · obtain ⟨-, hnonzero, t, ht, htid, -⟩ := h.owned _ _ hpending
      obtain rfl := Option.some.inj (htoken.symm.trans ht)
      exact ⟨rfl, hnonzero, _, Function.update_self _ _ _, htid, iff_of_true rfl rfl⟩
    · obtain ⟨hqid, hnonzero, t, ht, htid, hrest⟩ := h.owned id q hq
      have hd : q.tokenDigest ≠ p.tokenDigest := by
        intro heq
        obtain ⟨-, -, t', ht', htid', -⟩ := h.owned _ _ hpending
        rw [heq, ht'] at ht
        obtain rfl := Option.some.inj ht
        exact hne (htid.symm.trans htid')
      exact ⟨hqid, hnonzero, t, (Function.update_of_ne hd _ _).trans ht, htid, hrest⟩
  · simp only [List.mem_append, List.mem_singleton, Prod.mk.injEq]
    constructor
    · intro hother
      rcases update_eq_some hother with ⟨rfl, rfl⟩ | ⟨-, hother⟩
      · exact ⟨_, .inr ⟨rfl, rfl⟩, rfl⟩
      · obtain ⟨d, hmem, hfp⟩ := (h.hosts _ _).mp hother
        exact ⟨d, .inl hmem, hfp⟩
    · rintro ⟨d, hmem | ⟨-, rfl⟩, rfl⟩
      · exact update_new hhost ((h.hosts _ _).mpr ⟨d, hmem, rfl⟩)
      · exact Function.update_self _ _ _
  · by_cases hd : d' = p.tokenDigest
    · exact ⟨_, by rw [hd]; exact Function.update_self _ _ _, rfl⟩
    · rcases List.mem_append.mp hmem with hmem | hmem
      · obtain ⟨t, ht, hconsumed⟩ := h.consumed d' other hmem
        exact ⟨t, (Function.update_of_ne hd _ _).trans ht, hconsumed⟩
      · exact absurd (Prod.mk.inj (List.mem_singleton.mp hmem)).1 hd
  · rw [List.map_append, List.nodup_append]
    refine ⟨h.once, by simp, ?_⟩
    -- a token that led to a host before is consumed
    rintro d hd d' hd' rfl
    obtain ⟨⟨d, other⟩, hmem, rfl⟩ := List.mem_map.mp hd
    obtain ⟨t, ht, hconsumed⟩ := h.consumed d other hmem
    obtain rfl : d = p.tokenDigest := by simpa using hd'
    obtain rfl := Option.some.inj (htoken.symm.trans ht)
    cases hstate.symm.trans hconsumed

/-- **A call keeps the invariant.** -/
theorem Effect.sound (heffect : Effect db L' db') (h : Sound L db) : Sound (L ++ L') db' := by
  cases heffect with
  | completed baselines receipts completedEnrollments hpending hcompleted htoken hstate hid hnow
      hhost =>
    exact h.completed baselines receipts completedEnrollments hpending htoken hstate hhost
  | nothing =>
    rw [List.append_nil]
    exact h
  | created expires hnew =>
    rw [List.append_nil]
    exact h.newToken hnew expires
  | mismatched htoken hopen hattempts =>
    rw [List.append_nil]
    exact h.retoken htoken rfl (.inl rfl) hattempts
  | bound pending htoken hopen hunbound hid hfree hdigest hcompleted =>
    rw [List.append_nil]
    subst hdigest
    exact h.bound htoken hopen hunbound hid hfree hcompleted
  | revoked htoken hopen =>
    rw [List.append_nil]
    refine h.retoken htoken rfl (.inr ⟨rfl, fun hconsumed => ?_⟩) (h.fits htoken).mismatches
    exact not_open_of_closed (.inl hconsumed) hopen

/-- **Hosts are not overwritten, consumed and revoked tokens do not change.** -/
theorem Effect.keeps (heffect : Effect db L db') :
    (∀ fingerprint host, db.hosts fingerprint = some host → db'.hosts fingerprint = some host) ∧
    ∀ d r, db.tokens d = some r → r.state = .consumed ∨ r.state = .revoked →
      db'.tokens d = some r := by
  cases heffect with
  | nothing => exact ⟨fun _ _ h => h, fun _ _ h _ => h⟩
  | created expires hnew => exact ⟨fun _ _ h => h, fun d r h _ => update_new hnew h⟩
  | mismatched htoken hopen _ =>
    exact ⟨fun _ _ h => h, fun d r h hclosed => update_closed hopen htoken h hclosed⟩
  | bound pending htoken hopen _ _ _ _ _ =>
    exact ⟨fun _ _ h => h, fun d r h hclosed => update_closed hopen htoken h hclosed⟩
  | completed _ _ _ _ _ htoken hstate _ _ hhost =>
    exact ⟨fun _ _ h => update_new hhost h, fun d r h hclosed =>
      update_closed (.inr hstate) htoken h hclosed⟩
  | revoked htoken hopen =>
    exact ⟨fun _ _ h => h, fun d r h hclosed => update_closed hopen htoken h hclosed⟩

/-- The token stays bound to the pending record, which stays as it is until the token is
consumed. -/
def Bound (p : Pending) (db : Database) : Prop :=
  isZero p.id = false ∧ ∃ r, db.tokens p.tokenDigest = some r ∧ r.pendingID = p.id ∧
    (db.pending p.id = some p ∨ r.state = .consumed)

/-- The record of a bound token changes. -/
theorem Bound.retoken (h : Bound p db) (htoken : db.tokens d = some r) (hopen : r.Open)
    (hid : r'.pendingID = r.pendingID) :
    Bound p { db with tokens := Function.update db.tokens d (some r') } := by
  obtain ⟨hnonzero, t, ht, htid, hrest⟩ := h
  by_cases hd : p.tokenDigest = d
  · rw [hd] at ht
    obtain rfl := Option.some.inj (htoken.symm.trans ht)
    refine ⟨hnonzero, r', by rw [hd]; exact Function.update_self _ _ _, hid.trans htid, .inl ?_⟩
    exact hrest.resolve_right fun hconsumed => not_open_of_closed (.inl hconsumed) hopen
  · exact ⟨hnonzero, t, (Function.update_of_ne hd _ _).trans ht, htid, hrest⟩

theorem Effect.bound_keeps (heffect : Effect db L db') (h : Bound p db) :
    Bound p db' := by
  cases heffect with
  | nothing => exact h
  | created expires hnew =>
    obtain ⟨hnonzero, t, ht, hrest⟩ := h
    exact ⟨hnonzero, t, update_new hnew ht, hrest⟩
  | mismatched htoken hopen _ => exact h.retoken htoken hopen rfl
  | revoked htoken hopen => exact h.retoken htoken hopen rfl
  | bound pending htoken hopen hunbound hid hfree hdigest _ =>
    obtain ⟨hnonzero, t, ht, htid, hrest⟩ := h
    -- the token bound here was not bound before
    have hd : p.tokenDigest ≠ _ := fun heq => by
      rw [heq, htoken] at ht
      obtain rfl := Option.some.inj ht
      rw [htid, hnonzero] at hunbound
      simp at hunbound
    exact ⟨hnonzero, t, (Function.update_of_ne hd _ _).trans ht, htid,
      hrest.imp_left (update_new hfree)⟩
  | @completed pending record host now _ _ _ hpending _ htoken hstate hid _ _ =>
    obtain ⟨hnonzero, t, ht, htid, hrest⟩ := h
    by_cases hd : p.tokenDigest = pending.tokenDigest
    · rw [hd, htoken] at ht
      obtain rfl := Option.some.inj ht
      refine ⟨hnonzero, { record with state := .consumed }, ?_, htid, .inr rfl⟩
      rw [hd]
      exact Function.update_self _ _ _
    · refine ⟨hnonzero, t, (Function.update_of_ne hd _ _).trans ht, htid,
        hrest.imp_left fun hp => ?_⟩
      have hne : p.id ≠ pending.id := fun heq => by
        rw [heq, hpending] at hp
        obtain rfl := Option.some.inj hp
        exact hd rfl
      exact (Function.update_of_ne hne _ _).trans hp

end Invariant

/-! ### Histories -/

/-- The hosts a history of calls creates, and the database it leaves. -/
def history (lib : Libraries) : List Call → Database → List (Digest32 × HostRecord) × Database
  | [], db => ([], db)
  | call :: calls, db =>
    let rest := history lib calls (call.run lib db).2
    (call.created lib db ++ rest.1, rest.2)

/-- The token and transcript a call is to bind, and the clock reading. -/
def Call.begins (lib : Libraries) : Call → Option (Digest32 × Digest32 × Time)
  | .beginEnrollment plaintext transcriptDigest now _ _ =>
    (tokenDigest lib plaintext).map fun digest => (digest, transcriptDigest, now)
  | .beginEnrollmentSecret secret transcriptDigest now _ _ =>
    (digestSecret lib secret).map fun digest => (digest, transcriptDigest, now)
  | _ => none

section Histories

variable {lib : Libraries}
variable {calls : List Call} {L : List (Digest32 × HostRecord)} {db : Database} {p : Pending}
   {digest transcriptDigest : Digest32} {now : Time}

theorem history_sound (h : Sound L db) : Sound (L ++ (history lib calls db).1) (history lib calls db).2 := by
  induction calls generalizing L db with
  | nil =>
    rw [history, List.append_nil]
    exact h
  | cons call calls ih =>
    have hnext := ih (call.run_effect.sound h : Sound (L ++ call.created lib db) (call.run lib db).2)
    rw [List.append_assoc] at hnext
    exact hnext

/-- Nothing that a later history does changes a host or a closed token. -/
theorem history_keeps (later : List Call) (db : Database) :
    (∀ fingerprint host, db.hosts fingerprint = some host →
      (history lib later db).2.hosts fingerprint = some host) ∧
    ∀ d r, db.tokens d = some r → r.state = .consumed ∨ r.state = .revoked →
      (history lib later db).2.tokens d = some r := by
  induction later generalizing db with
  | nil => exact ⟨fun _ _ h => h, fun _ _ h _ => h⟩
  | cons call later ih =>
    obtain ⟨hhosts, hclosed⟩ :=
      (call.run_effect : Effect db (call.created lib db) (call.run lib db).2).keeps
    obtain ⟨ihhosts, ihclosed⟩ := ih (call.run lib db).2
    constructor
    · intro fingerprint host h
      exact ihhosts _ _ (hhosts _ _ h)
    · intro d r h hstate
      exact ihclosed _ _ (hclosed _ _ h hstate) hstate

theorem history_bound (h : Bound p db) :
    Bound p (history lib calls db).2 := by
  induction calls generalizing db with
  | nil => exact h
  | cons call calls ih => exact ih (call.run_effect.bound_keeps h)

/-- Both forms begin the same way. -/
theorem Call.run_begins {call : Call} (h : call.begins lib = some (digest, transcriptDigest, now)) :
    ∃ created random, ∀ db, call.run lib db =
      (beginEnrollmentDigest digest transcriptDigest now created random db).map .begun id := by
  cases call with
  | beginEnrollment plaintext t n created random =>
    obtain ⟨d, hd, heq⟩ := Option.map_eq_some_iff.mp h
    obtain ⟨rfl, rfl, rfl⟩ := heq
    exact ⟨created, random, fun db => by simp only [Call.run, Store.beginEnrollment, hd]⟩
  | beginEnrollmentSecret secret t n created random =>
    obtain ⟨d, hd, heq⟩ := Option.map_eq_some_iff.mp h
    obtain ⟨rfl, rfl, rfl⟩ := heq
    exact ⟨created, random, fun db => by simp only [Call.run, Store.beginEnrollmentSecret, hd]⟩
  | createEnrollment => exact absurd h (by simp [Call.begins])
  | completeEnrollment => exact absurd h (by simp [Call.begins])
  | completeEnrollmentEvidence => exact absurd h (by simp [Call.begins])
  | completeEnrollmentTranscript => exact absurd h (by simp [Call.begins])
  | revokeEnrollment => exact absurd h (by simp [Call.begins])

/-- A begin that succeeds returns a record the token is bound to. -/
theorem beginEnrollmentDigest_ok {db' : Database} (hsound : Sound L db) {created : Time}
    {random : Random 16}
    (h : beginEnrollmentDigest digest transcriptDigest now created random db = (.ok p, db')) :
    isZero transcriptDigest = false ∧ p.tokenDigest = digest ∧
      p.transcriptDigest = transcriptDigest ∧ Bound p db' := by
  rw [beginEnrollmentDigest] at h
  split at h
  · cases h
  rename_i htranscript
  rw [Bool.not_eq_true] at htranscript
  cases htoken : db.tokens digest with
  | none => simp [htoken] at h
  | some record =>
    simp only [htoken] at h
    iterate 3
      split at h
      · cases h
    split at h
    · -- the token is bound: only the same transcript succeeds
      rename_i hbound
      cases hpending : db.pending record.pendingID with
      | none => simp [hpending] at h
      | some pending =>
        simp only [hpending] at h
        split at h
        · cases h
        rename_i h5
        split at h
        case' isFalse => split at h <;> cases h
        rename_i h6
        obtain ⟨hp, rfl⟩ := Prod.mk.inj h
        obtain rfl := Except.ok.inj hp
        obtain ⟨hid, -⟩ := hsound.owned _ _ hpending
        rw [not_not] at h5
        refine ⟨htranscript, h5, h6, by rw [hid]; exact hbound, record, by rw [h5]; exact htoken,
          hid.symm, .inl ?_⟩
        rw [hid]
        exact hpending
    · cases hid : newPendingID random db.pending with
      | error e => simp [hid] at h
      | ok id =>
        simp only [hid] at h
        obtain ⟨hp, rfl⟩ := Prod.mk.inj h
        obtain rfl := Except.ok.inj hp
        obtain ⟨hnonzero, -⟩ := newPendingIDFrom_ok hid
        exact ⟨htranscript, rfl, rfl, hnonzero, _, Function.update_self _ _ _, rfl,
          .inl (Function.update_self _ _ _)⟩

/-- A begin with the transcript of the record the token is bound to. -/
theorem beginEnrollmentDigest_again (h : Bound p db)
    (htranscript : isZero p.transcriptDigest = false) {r : TokenRecord}
    (htoken : db.tokens p.tokenDigest = some r) (hopen : r.Open)
    (hnow : Time.unixNano now < r.expiresAtUnixNano) (created : Time) (random : Random 16) :
    beginEnrollmentDigest p.tokenDigest p.transcriptDigest now created random db = (.ok p, db) := by
  obtain ⟨hnonzero, t, ht, htid, hrest⟩ := h
  obtain rfl := Option.some.inj (htoken.symm.trans ht)
  have hclosed := fun hc => not_open_of_closed (r := r) hc hopen
  have hp := hrest.resolve_right fun hc => hclosed (.inl hc)
  rw [beginEnrollmentDigest, htoken]
  simp only [htranscript, htid, Bool.false_eq_true, if_false]
  rw [if_neg fun hc => hclosed (.inl hc), if_neg fun hc => hclosed (.inr hc),
    if_neg (Int.not_le.mpr hnow), if_pos hnonzero, hp]
  simp

/-- A completion that succeeds was in time, and its token was not revoked. -/
theorem Call.completion_in_time {call : Call} {pendingID : Identifier16} {host : HostRecord}
    {db' : Database} (hcall : call.completion = some (pendingID, host, now))
    (hrun : call.run lib db = (.done (.ok ()), db')) :
    ∃ p r, db.pending pendingID = some p ∧ db.tokens p.tokenDigest = some r ∧
      Time.unixNano now < r.expiresAtUnixNano ∧ r.state ≠ .revoked := by
  rw [Call.completion_eq lib] at hcall
  obtain ⟨c, hc, heq⟩ := Option.map_eq_some_iff.mp hcall
  cases heq
  obtain ⟨hnone, -⟩ | ⟨c', hc', ⟨e, he, -⟩ | ⟨-, p, r, hdone⟩⟩ := Call.run_cases hrun
  · cases hnone.symm.trans hc
  · cases he
  · cases hc'.symm.trans hc
    obtain ⟨hpending, -, -, htoken, hstate, -, hnow⟩ := completable_ok hdone.found.token
    refine ⟨p, r, hpending, htoken, hnow, ?_⟩
    rw [hstate]
    decide

/-- After a begin that succeeded, a begin with the same transcript returns the same record
for as long as the token is open and has not expired. -/
theorem Call.begins_again {db₁ : Database} (hsound : Sound L db) {first again : Call} {now' : Time}
    (hfirst : first.begins lib = some (digest, transcriptDigest, now))
    (hrun : first.run lib db = (.begun (.ok p), db₁)) (later : List Call) {r : TokenRecord}
    (htoken : (history lib later db₁).2.tokens digest = some r) (hopen : r.Open)
    (hnow : Time.unixNano now' < r.expiresAtUnixNano)
    (hagain : again.begins lib = some (digest, transcriptDigest, now')) :
    again.run lib (history lib later db₁).2 = (.begun (.ok p), (history lib later db₁).2) := by
  obtain ⟨created, random, hfirst⟩ := Call.run_begins hfirst
  obtain ⟨created', random', hagain⟩ := Call.run_begins hagain
  rw [hfirst] at hrun
  have hbegin : beginEnrollmentDigest digest transcriptDigest now created random db = (.ok p, db₁) := by
    obtain ⟨hp, hdb⟩ := Prod.mk.inj hrun
    exact Prod.ext (Outcome.begun.inj hp) hdb
  obtain ⟨hnonzero, rfl, rfl, hbound⟩ := beginEnrollmentDigest_ok hsound hbegin
  rw [hagain, beginEnrollmentDigest_again (history_bound hbound) hnonzero htoken hopen hnow]
  rfl

/-- **Enrollment tokens are single use.**  After any calls on an empty database, with any
readings of the clock (as `UnixNano` gives them, the unit of the stored expiry):

* a token led to at most one host, and the hosts are the ones that were created;
* tokens and pending records name one another, one to one;
* later calls change neither a host nor a consumed or revoked token;
* a call that completes an enrollment finds its token unexpired and not revoked;
* a begin with the transcript a token was bound to returns the same record, as long as the
  token is open and has not expired. -/
theorem enrollment_tokens_single_use {created : List (Digest32 × HostRecord)}
    (hrun : history lib calls Database.empty = (created, db)) :
    (created.map Prod.fst).Nodup ∧
    (∀ fingerprint host, db.hosts fingerprint = some host ↔
      ∃ d, (d, host) ∈ created ∧ host.fingerprint = fingerprint) ∧
    (∀ d r, db.tokens d = some r →
      (r.state = .live → isZero r.pendingID = true) ∧
      (r.state = .pending ∨ r.state = .consumed → isZero r.pendingID = false ∧
        ∃ p, db.pending r.pendingID = some p ∧ p.tokenDigest = d) ∧
      r.mismatchAttempts ≤ 4) ∧
    (∀ d d' r r', db.tokens d = some r → db.tokens d' = some r' → isZero r.pendingID = false →
      r.pendingID = r'.pendingID → d = d') ∧
    (∀ id p, db.pending id = some p → ∃ r, db.tokens p.tokenDigest = some r ∧ r.pendingID = id ∧
      (p.completed = true ↔ r.state = .consumed)) ∧
    (∀ later, (∀ fingerprint host, db.hosts fingerprint = some host →
        (history lib later db).2.hosts fingerprint = some host) ∧
      ∀ d r, db.tokens d = some r → r.state = .consumed ∨ r.state = .revoked →
        (history lib later db).2.tokens d = some r) ∧
    (∀ (call : Call) pendingID host now db', call.completion = some (pendingID, host, now) →
      call.run lib db = (.done (.ok ()), db') →
      ∃ p r, db.pending pendingID = some p ∧ db.tokens p.tokenDigest = some r ∧
        Time.unixNano now < r.expiresAtUnixNano ∧ r.state ≠ .revoked) ∧
    ∀ (first again : Call) digest transcriptDigest now now' p db₁ later r,
      first.begins lib = some (digest, transcriptDigest, now) →
      first.run lib db = (.begun (.ok p), db₁) →
      (history lib later db₁).2.tokens digest = some r → r.Open →
      Time.unixNano now' < r.expiresAtUnixNano →
      again.begins lib = some (digest, transcriptDigest, now') →
      again.run lib (history lib later db₁).2 = (.begun (.ok p), (history lib later db₁).2) := by
  have hsound : Sound ([] ++ (history lib calls Database.empty).1)
    (history lib calls Database.empty).2 := history_sound Sound.empty
  rw [hrun] at hsound
  refine ⟨hsound.once, hsound.hosts, ?_, ?_, ?_, ?_, ?_, ?_⟩
  · intro d r htoken
    refine ⟨hsound.live d r htoken, fun hused => ?_, hsound.mismatches d r htoken⟩
    have hnonzero := hsound.used d r htoken hused
    exact ⟨hnonzero, hsound.named d r htoken hnonzero⟩
  · -- the pending record both tokens name has one token digest
    intro d d' r r' htoken htoken' hnonzero hid
    obtain ⟨p, hp, rfl⟩ := hsound.named d r htoken hnonzero
    rw [hid] at hnonzero hp
    obtain ⟨p', hp', rfl⟩ := hsound.named d' r' htoken' hnonzero
    rw [Option.some.inj (hp.symm.trans hp')]
  · intro id p hp
    obtain ⟨-, -, hr⟩ := hsound.owned id p hp
    exact hr
  · intro later
    exact history_keeps later db
  · intro call pendingID host now db' hcall hrun
    exact Call.completion_in_time hcall hrun
  · intro first again digest transcriptDigest now now' p db₁ later r hfirst hrun htoken hopen hnow
      hagain
    exact Call.begins_again hsound hfirst hrun later htoken hopen hnow hagain

end Histories

/-- A digest and an encoding that know one secret. -/
def sampleLibraries : Libraries where
  sha256 _ := List.Vector.replicate 32 7#8
  decodeString _ := some (List.replicate 32 1#8)
  encodeToString _ := "secret"

def sampleHost : HostRecord :=
  ⟨List.Vector.replicate 32 9#8, [1#8], [], [], [], List.Vector.replicate 32 0#8, .software,
    List.Vector.replicate 32 7#8, 1⟩

/-- A token is created, bound twice and used, and then tried again for another host. -/
def sampleCalls : List Call :=
  [.createEnrollment 1000000000 5000000000 fun _ => some (List.Vector.replicate 32 1#8),
    .beginEnrollment "secret" (List.Vector.replicate 32 2#8) 5500000000 5500000000
      fun _ => some (List.Vector.replicate 16 3#8),
    .beginEnrollmentSecret (List.replicate 32 1#8) (List.Vector.replicate 32 4#8) 5500000000
      5500000000 fun _ => none,
    .completeEnrollmentEvidence (List.Vector.replicate 16 3#8) sampleHost [1#8] [2#8] 5900000000,
    .completeEnrollment (List.Vector.replicate 16 3#8)
      { sampleHost with fingerprint := List.Vector.replicate 32 8#8 } 5900000000]

theorem enrollment_tokens_single_use_sample :
    (history sampleLibraries sampleCalls Database.empty).1 =
        [(List.Vector.replicate 32 7#8, sampleHost)] ∧
      ((history sampleLibraries sampleCalls Database.empty).1.map Prod.fst).Nodup := by
  rcases hrun : history sampleLibraries sampleCalls Database.empty with ⟨created, db⟩
  refine ⟨?_, (enrollment_tokens_single_use hrun).1⟩
  have hcreated := congrArg Prod.fst hrun
  rw [← hcreated]
  decide +kernel

end Pbns.Store
