/-
Attestation challenges in the gateway's database (`gateway/internal/store/store.go`) and the
PCR selections in them (`gateway/internal/model/model.go`).

The bucket holds encoded records.  The codec is a parameter: it enforces the limits `Open`
configures, and otherwise reads back what it writes.

* `decodeCanonical_marshal` — which records can be read back;
* `challenge_reads_back` — which challenges can;
* `challenge_used_once` — what can happen to a challenge over all calls.
-/
import Pbns.GatewayStore
import Pbns.Guard
import Pbns.Shape

namespace Pbns.Model

/-- `PCRBank`; algorithms and indices are 64-bit numbers that nothing is computed from. -/
structure PCRBank where
  algorithm : ℕ
  indices : List ℕ
  deriving DecidableEq

abbrev PCRSelection := List PCRBank

/-- The inner loop of `PCRSelection.Valid`, behind the index `previous`. -/
def indicesValid : Option ℕ → List ℕ → Bool
  | _, [] => true
  | previous, value :: rest =>
    if 24 ≤ value ∨ previous.any (fun p => decide (value ≤ p)) = true then false
    else indicesValid (some value) rest

/-- The outer loop of `PCRSelection.Valid`, behind the algorithm `previous`. -/
def banksValid : Option ℕ → List PCRBank → Bool
  | _, [] => true
  | previous, bank :: rest =>
    if bank.algorithm = 0 ∨ bank.indices.length = 0 ∨ 24 < bank.indices.length ∨
        previous.any (fun p => decide (bank.algorithm ≤ p)) = true then false
    else if indicesValid none bank.indices = false then false
    else banksValid (some bank.algorithm) rest

def PCRSelection.valid (selection : PCRSelection) : Bool :=
  if selection.length = 0 ∨ 8 < selection.length then false else banksValid none selection

theorem PCRSelection.length_le {selection : PCRSelection} (h : selection.valid = true) :
    selection.length ≤ 8 := by
  rw [PCRSelection.valid] at h
  split_ifs at h with hlen
  omega

end Pbns.Model

namespace Pbns.Store

open Octets Model Guard Shapes

/-! ### The records -/

/-- `AttestationChallengeState`, a text -/
inductive ChallengeState
  | unset
  | issued
  | processing
  | consumed
  | expired
  | other (text : String)
  deriving DecidableEq

/-- `AttestationFailureReason`, a text -/
inductive FailureReason
  | unset
  | accepted
  | host
  | decrypt
  | authentication
  | context
  | invalid
  | verification
  | cancelled
  | issueFailure
  | other (text : String)
  deriving DecidableEq

def FailureReason.valid : FailureReason → Bool
  | .unset => false
  | .other _ => false
  | _ => true

structure AttestationChallenge where
  requestID : Identifier16
  hostFingerprint : Digest32
  verifierNonce : Digest32
  selection : PCRSelection
  recipientKID : Octets
  issuedAtUnixNS : Int
  expiresAtUnixNS : Int
  state : ChallengeState
  failureReason : FailureReason
  deriving DecidableEq

structure AttestationChallengeRecord where
  hostFingerprint : Digest32
  verifierNonce : Digest32
  selection : PCRSelection
  recipientKID : Octets
  issuedAtUnixNS : Int
  expiresAtUnixNS : Int
  state : ChallengeState
  failureReason : FailureReason
  deriving DecidableEq

/-- A bank is encoded as a map of its two fields. -/
def bankShape (bank : PCRBank) : Shape :=
  .map [.scalar, .array (List.replicate bank.indices.length .scalar)]

/-- A record is encoded as a map of its eight fields; octet arrays and strings are scalars. -/
def recordShape (record : AttestationChallengeRecord) : Shape :=
  .map [.scalar, .scalar, .array (record.selection.map bankShape), .scalar, .scalar, .scalar,
    .scalar, .scalar]

/-- The limits of the strict decoder in `Open`. -/
def decodeLimits : Limits := ⟨8, 16, 16⟩

abbrev RecordCodec (ρ : Type) := Codec decodeLimits recordShape ρ

/-- The bucket of the challenges. -/
abbrev Challenges (ρ : Type) := Identifier16 → Option ρ

section Operations

variable {ρ : Type} [DecidableEq ρ] (codec : RecordCodec ρ)

/-- `decodeCanonical` into a challenge record. -/
def decodeCanonical (encoded : ρ) : Option AttestationChallengeRecord :=
  if codec.isEmpty encoded = true then none
  else
    match codec.unmarshal encoded with
    | none => none
    | some record => if encoded ≠ codec.marshal record then none else some record

def validAttestationChallenge (challenge : AttestationChallenge) : Bool :=
  !isZero challenge.requestID && !isZero challenge.hostFingerprint &&
    !isZero challenge.verifierNonce && challenge.selection.valid &&
    decide (0 < challenge.recipientKID.length) && decide (challenge.recipientKID.length ≤ 64) &&
    decide (0 < challenge.issuedAtUnixNS) &&
    decide (challenge.issuedAtUnixNS < challenge.expiresAtUnixNS) &&
    (challenge.state = .unset || challenge.state = .issued) && challenge.failureReason = .unset

/-- The record of a new challenge. -/
def newRecord (challenge : AttestationChallenge) : AttestationChallengeRecord :=
  ⟨challenge.hostFingerprint, challenge.verifierNonce, challenge.selection, challenge.recipientKID,
    challenge.issuedAtUnixNS, challenge.expiresAtUnixNS, .issued, .unset⟩

def challengeFromRecord (requestID : Identifier16) (record : AttestationChallengeRecord) :
    AttestationChallenge :=
  ⟨requestID, record.hostFingerprint, record.verifierNonce, record.selection, record.recipientKID,
    record.issuedAtUnixNS, record.expiresAtUnixNS, record.state, record.failureReason⟩

def createAttestationChallenge (challenge : AttestationChallenge) (bucket : Challenges ρ) :
    Except Error Unit × Challenges ρ :=
  if validAttestationChallenge challenge = false then (.error .argument, bucket)
  else
    match bucket challenge.requestID with
    | some _ => (.error .challengeExists, bucket)
    | none => (.ok (), Function.update bucket challenge.requestID
        (some (codec.marshal (newRecord challenge))))

/-- The tests of `BeginAttestationChallenge` on the record it has decoded. -/
def recordIsSound (record : AttestationChallengeRecord) : Bool :=
  record.selection.valid && decide (record.recipientKID.length ≠ 0) &&
    decide (record.recipientKID.length ≤ 64) &&
    decide (record.issuedAtUnixNS < record.expiresAtUnixNS) &&
    (record.state = .issued || record.state = .processing || record.state = .consumed ||
      record.state = .expired)

def beginAttestationChallenge (requestID : Identifier16) (now : Time) (bucket : Challenges ρ) :
    Except Error AttestationChallenge × Challenges ρ :=
  if isZero requestID = true then (.error .argument, bucket)
  else
    match bucket requestID with
    | none => (.error .notFound, bucket)
    | some encoded =>
      match decodeCanonical codec encoded with
      | none => (.error .corrupt, bucket)
      | some record =>
        if recordIsSound record = false then (.error .corrupt, bucket)
        else if record.expiresAtUnixNS ≤ Time.unixNano now then
          if record.state = .issued then
            (.error .challengeExpired, Function.update bucket requestID
              (some (codec.marshal { record with state := .expired })))
          else (.error .challengeExpired, bucket)
        else if record.state ≠ .issued then (.error .challengeConsumed, bucket)
        else
          let record := { record with state := .processing }
          (.ok (challengeFromRecord requestID record),
            Function.update bucket requestID (some (codec.marshal record)))

def finishAttestationChallenge (requestID : Identifier16) (reason : FailureReason)
    (bucket : Challenges ρ) : Except Error Unit × Challenges ρ :=
  if isZero requestID = true ∨ reason.valid = false then (.error .argument, bucket)
  else
    match bucket requestID with
    | none => (.error .notFound, bucket)
    | some encoded =>
      match decodeCanonical codec encoded with
      | none => (.error .corrupt, bucket)
      | some record =>
        if record.state ≠ .processing then (.error .challengeConsumed, bucket)
        else (.ok (), Function.update bucket requestID
          (some (codec.marshal { record with state := .consumed, failureReason := reason })))

def getAttestationChallenge (requestID : Identifier16) (bucket : Challenges ρ) :
    Except Error AttestationChallenge :=
  if isZero requestID = true then .error .argument
  else
    match bucket requestID with
    | none => .error .notFound
    | some encoded =>
      match decodeCanonical codec encoded with
      | none => .error .corrupt
      | some record => .ok (challengeFromRecord requestID record)

end Operations

/-! ### What can be read back -/

section Read

variable {ρ : Type} [DecidableEq ρ] {codec : RecordCodec ρ}

/-- The limits only bite on the indices of a bank. -/
theorem recordShape_within {record : AttestationChallengeRecord} (h : record.selection.length ≤ 8) :
    (recordShape record).within decodeLimits 0 = true
      ↔ ∀ bank ∈ record.selection, bank.indices.length ≤ 16 := by
  have hbank (bank : PCRBank) : (bankShape bank).within decodeLimits 2 = true
      ↔ bank.indices.length ≤ 16 := by
    simp [bankShape, within_map, within_scalars, decodeLimits]
  have hselection : (Shape.array (record.selection.map bankShape)).within decodeLimits 1 = true
      ↔ ∀ bank ∈ record.selection, bank.indices.length ≤ 16 := by
    rw [within_array, List.length_map, List.forall_mem_map]
    constructor
    · rintro ⟨-, -, hbanks⟩ bank hmem
      exact (hbank bank).mp (hbanks bank hmem)
    · intro hbanks
      refine ⟨by decide, Nat.le_trans h (by decide), fun bank hmem => ?_⟩
      exact (hbank bank).mpr (hbanks bank hmem)
  rw [recordShape, within_map, ← hselection]
  simp [decodeLimits]

/-- A record is read back when no bank has too many indices, and not at all otherwise. -/
theorem decodeCanonical_marshal {record : AttestationChallengeRecord}
    (h : record.selection.length ≤ 8) : decodeCanonical codec (codec.marshal record)
      = if ∀ bank ∈ record.selection, bank.indices.length ≤ 16 then some record else none := by
  rw [decodeCanonical, codec.isEmpty_marshal, codec.unmarshal_marshal, if_neg (by simp)]
  by_cases hbanks : ∀ bank ∈ record.selection, bank.indices.length ≤ 16
  · rw [if_pos ((recordShape_within h).mpr hbanks), if_pos hbanks]
    simp
  · rw [if_neg (fun hw => hbanks ((recordShape_within h).mp hw)), if_neg hbanks]

variable {challenge : AttestationChallenge}

omit [DecidableEq ρ] in
/-- An accepted challenge is stored as its record. -/
theorem createAttestationChallenge_ok {bucket bucket' : Challenges ρ}
    (h : createAttestationChallenge codec challenge bucket = (.ok (), bucket')) :
    validAttestationChallenge challenge = true ∧ bucket challenge.requestID = none
      ∧ bucket' = Function.update bucket challenge.requestID
        (some (codec.marshal (newRecord challenge))) := by
  rw [createAttestationChallenge] at h
  split_ifs at h with hvalid
  · simp at h
  · cases hfree : bucket challenge.requestID with
    | some encoded =>
      rw [hfree] at h
      simp at h
    | none =>
      rw [hfree] at h
      exact ⟨by simpa using hvalid, rfl, ((Prod.mk.inj h).2).symm⟩

/-- What the tests of `validAttestationChallenge` leave. -/
theorem validAttestationChallenge_iff :
    validAttestationChallenge challenge = true ↔ isZero challenge.requestID = false
      ∧ isZero challenge.hostFingerprint = false ∧ isZero challenge.verifierNonce = false
      ∧ recordIsSound (newRecord challenge) = true ∧ 0 < challenge.issuedAtUnixNS
      ∧ (challenge.state = .unset ∨ challenge.state = .issued)
      ∧ challenge.failureReason = .unset := by
  have hsound : recordIsSound (newRecord challenge) = true ↔ challenge.selection.valid = true
      ∧ 0 < challenge.recipientKID.length ∧ challenge.recipientKID.length ≤ 64
      ∧ challenge.issuedAtUnixNS < challenge.expiresAtUnixNS := by
    simp only [recordIsSound, Bool.and_eq_true, decide_eq_true_eq, Bool.or_eq_true, and_assoc]
    simp only [newRecord, true_or, and_true, Nat.pos_iff_ne_zero]
  rw [hsound]
  simp only [validAttestationChallenge, Bool.and_eq_true, Bool.not_eq_true', decide_eq_true_eq,
    Bool.or_eq_true]
  tauto

/-- **A challenge can be read back exactly when no bank of it has more than 16 indices.** -/
theorem challenge_reads_back (codec : RecordCodec ρ) {bucket bucket' : Challenges ρ} {now : Time}
    (hcreate : createAttestationChallenge codec challenge bucket = (.ok (), bucket'))
    (hnow : Time.unixNano now < challenge.expiresAtUnixNS) :
    (getAttestationChallenge codec challenge.requestID bucket'
          = .ok { challenge with state := .issued } ∧
        (beginAttestationChallenge codec challenge.requestID now bucket').1
          = .ok { challenge with state := .processing }) ↔
      ∀ bank ∈ challenge.selection, bank.indices.length ≤ 16 := by
  obtain ⟨hvalid, -, rfl⟩ := createAttestationChallenge_ok hcreate
  obtain ⟨hid, -, -, hsound, -, -, hreason⟩ := validAttestationChallenge_iff.mp hvalid
  have hlen : (newRecord challenge).selection.length ≤ 8 := by
    simp only [recordIsSound, Bool.and_eq_true] at hsound
    exact PCRSelection.length_le hsound.1.1.1.1
  have hread : decodeCanonical codec (codec.marshal (newRecord challenge))
      = if ∀ bank ∈ challenge.selection, bank.indices.length ≤ 16 then some (newRecord challenge)
        else none := decodeCanonical_marshal hlen
  have hexpires : ¬ (newRecord challenge).expiresAtUnixNS ≤ Time.unixNano now := Int.not_le.mpr hnow
  have hissued : (newRecord challenge).state = .issued := rfl
  constructor
  · -- what was read back has passed the decoder
    rintro ⟨hget, -⟩
    by_contra hbanks
    rw [if_neg hbanks] at hread
    rw [getAttestationChallenge, if_neg (by simp [hid]), Function.update_self] at hget
    simp only [hread] at hget
    simp at hget
  · intro hbanks
    rw [if_pos hbanks] at hread
    have hfields : challengeFromRecord challenge.requestID (newRecord challenge)
        = { challenge with state := .issued } := by
      rw [challengeFromRecord, newRecord, hreason]
    constructor
    · rw [getAttestationChallenge, if_neg (by simp [hid]), Function.update_self]
      simp only [hread, hfields]
    · rw [beginAttestationChallenge, if_neg (by simp [hid]), Function.update_self]
      simp only [hread]
      rw [if_neg (by simp [hsound]), if_neg hexpires, if_neg (by simp [hissued])]
      exact congrArg (fun c : AttestationChallenge => Except.ok { c with state := .processing }) hfields

end Read

def sampleCodec : RecordCodec AttestationChallengeRecord := Codec.plain decodeLimits recordShape

/-- A challenge for one bank. -/
def sampleChallenge (indices : List ℕ) : AttestationChallenge :=
  ⟨List.Vector.replicate 16 1#8, List.Vector.replicate 32 1#8, List.Vector.replicate 32 2#8,
    [⟨11, indices⟩], [1#8], 1, 10, .unset, .unset⟩

/-- The bucket with the sample challenge in it. -/
def sampleChallenges (indices : List ℕ) : Challenges AttestationChallengeRecord :=
  (createAttestationChallenge sampleCodec (sampleChallenge indices) fun _ => none).2

theorem challenge_reads_back_sample :
    getAttestationChallenge sampleCodec (sampleChallenge [0, 7]).requestID (sampleChallenges [0, 7])
        = .ok { sampleChallenge [0, 7] with state := .issued } ∧
      (beginAttestationChallenge sampleCodec (sampleChallenge [0, 7]).requestID 5
          (sampleChallenges [0, 7])).1
        = .ok { sampleChallenge [0, 7] with state := .processing } := by
  have hcreate : createAttestationChallenge sampleCodec (sampleChallenge [0, 7]) (fun _ => none)
      = (.ok (), sampleChallenges [0, 7]) := rfl
  have hnow : Time.unixNano 5 < (sampleChallenge [0, 7]).expiresAtUnixNS := by decide
  exact (challenge_reads_back sampleCodec hcreate hnow).mpr (by decide)

/-- The selection of 17 registers is valid and accepted, and can then be neither read nor used. -/
theorem challenge_unreadable :
    (createAttestationChallenge sampleCodec (sampleChallenge (List.range 17)) fun _ => none).1
        = .ok () ∧
      getAttestationChallenge sampleCodec (sampleChallenge (List.range 17)).requestID
        (sampleChallenges (List.range 17)) = .error .corrupt ∧
      (beginAttestationChallenge sampleCodec (sampleChallenge (List.range 17)).requestID 5
        (sampleChallenges (List.range 17))).1 = .error .corrupt :=
  ⟨rfl, rfl, rfl⟩

/-! ### The life of a challenge -/

/-- The calls of any number of connections, which the database puts in one order. -/
inductive ChallengeCall
  | create (challenge : AttestationChallenge)
  | begin (requestID : Identifier16) (now : Time)
  | finish (requestID : Identifier16) (reason : FailureReason)

def ChallengeCall.requestID : ChallengeCall → Identifier16
  | .create challenge => challenge.requestID
  | .begin requestID _ => requestID
  | .finish requestID _ => requestID

inductive ChallengeStep
  | created
  | begun
  | finished

/-- What the state of a record leaves to be done. -/
def ChallengeState.admits : ChallengeState → List ChallengeStep
  | .issued => [.begun, .finished]
  | .processing => [.finished]
  | _ => []

section Runs

variable {ρ : Type} [DecidableEq ρ] (codec : RecordCodec ρ)

/-- What succeeds by a call, and the bucket behind it. -/
def ChallengeCall.run (bucket : Challenges ρ) : ChallengeCall → Option ChallengeStep × Challenges ρ
  | .create challenge =>
    (createAttestationChallenge codec challenge bucket).map (·.toOption.map fun _ => .created) id
  | .begin requestID now =>
    (beginAttestationChallenge codec requestID now bucket).map (·.toOption.map fun _ => .begun) id
  | .finish requestID reason =>
    (finishAttestationChallenge codec requestID reason bucket).map
      (·.toOption.map fun _ => .finished) id

/-- What succeeds of some calls for one identifier. -/
def successes (requestID : Identifier16) : List ChallengeCall → Challenges ρ → List ChallengeStep
  | [], _ => []
  | call :: calls, bucket =>
    let (step, bucket') := call.run codec bucket
    (if call.requestID = requestID then step.toList else []) ++ successes requestID calls bucket'

/-- What an entry of the bucket leaves to be done: nothing, if it cannot be read. -/
def remaining : Option ρ → List ChallengeStep
  | none => [.created, .begun, .finished]
  | some encoded => ((decodeCanonical codec encoded).map (·.state.admits)).getD []

variable {codec} {bucket : Challenges ρ}

theorem remaining_update {id : Identifier16} {record : AttestationChallengeRecord}
    (step : Option ChallengeStep)
    (h : (step.toList ++ record.state.admits).Sublist (remaining codec (bucket id))) :
    (step.toList ++ remaining codec
        (Function.update bucket id (some (codec.marshal record)) id)).Sublist
        (remaining codec (bucket id)) ∧
      ∀ other ≠ id, Function.update bucket id (some (codec.marshal record)) other = bucket other := by
  refine ⟨.trans ?_ h, fun other hne => Function.update_of_ne hne _ _⟩
  rw [Function.update_self, remaining, decodeCanonical, codec.isEmpty_marshal, codec.unmarshal_marshal]
  split_ifs <;> simp

/-- **One call** touches its own entry only, and what succeeds is no longer left to be done. -/
theorem ChallengeCall.run_remaining (codec : RecordCodec ρ) (bucket : Challenges ρ)
    (call : ChallengeCall) :
    ((call.run codec bucket).1.toList ++ remaining codec
        ((call.run codec bucket).2 call.requestID)).Sublist (remaining codec (bucket call.requestID)) ∧
      ∀ other ≠ call.requestID, (call.run codec bucket).2 other = bucket other := by
  cases call with
  | create challenge =>
    rw [ChallengeCall.run, ChallengeCall.requestID]
    fun_cases createAttestationChallenge codec challenge bucket with
    | case3 hvalid hfree => exact remaining_update (some .created) (by rw [hfree]; exact .refl _)
    | _ => exact ⟨.refl _, fun _ _ => rfl⟩
  | begin id now =>
    rw [ChallengeCall.run, ChallengeCall.requestID]
    fun_cases beginAttestationChallenge codec id now bucket with
    | case5 => exact remaining_update none (List.nil_sublist _)
    | case8 hid encoded hentry record hdec hsound hlate hstate =>
      refine remaining_update (some .begun) ?_
      rw [hentry, remaining, hdec, Option.map_some, not_not.mp hstate]
      exact .refl _
    | _ => exact ⟨.refl _, fun _ _ => rfl⟩
  | finish id reason =>
    rw [ChallengeCall.run, ChallengeCall.requestID]
    fun_cases finishAttestationChallenge codec id reason bucket with
    | case5 hid encoded hentry record hdec hstate =>
      refine remaining_update (some .finished) ?_
      rw [hentry, remaining, hdec, Option.map_some, not_not.mp hstate]
      exact .refl _
    | _ => exact ⟨.refl _, fun _ _ => rfl⟩

/-- **A challenge is created, begun and finished at most once each**, in this order, whatever the
calls and whatever the store held before. -/
theorem challenge_used_once (codec : RecordCodec ρ) (requestID : Identifier16)
    (calls : List ChallengeCall) (bucket : Challenges ρ) :
    (successes codec requestID calls bucket).Sublist [.created, .begun, .finished] := by
  have hrun : (successes codec requestID calls bucket).Sublist
      (remaining codec (bucket requestID)) := by
    induction calls generalizing bucket with
    | nil => exact List.nil_sublist _
    | cons call calls ih =>
      obtain ⟨hown, hother⟩ := call.run_remaining codec bucket
      have hrest := ih (call.run codec bucket).2
      simp only [successes]
      split_ifs with hid
      · subst hid
        exact (hrest.append_left _).trans hown
      · rwa [hother _ (Ne.symm hid)] at hrest
  refine hrun.trans ?_
  cases bucket requestID with
  | none => exact .refl _
  | some encoded =>
    rw [remaining]
    rcases decodeCanonical codec encoded with _ | record
    · exact List.nil_sublist _
    · cases hstate : record.state <;> simp [hstate, ChallengeState.admits]

end Runs

end Pbns.Store
