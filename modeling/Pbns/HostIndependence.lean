/-
Two hosts in one database (`gateway/internal/store/store.go`): what an operation for one host
depends on, and what an operation for another one leaves alone.

Hosts share one bucket for their documents, under the digests of these, and a document that is
stored is never stored again, for whichever host.  That is the one way in which one host can
stand in the way of another.

* `LedgerCall.run_frame` — what a call leaves alone;
* `LedgerCall.run_congr` — what a call depends on;
* `hosts_independent` — both, for two calls.
-/
import Pbns.Baselines

namespace Pbns.Store

open Octets Model Guard BaselineUpdate

/-! ### Whose records a call is about -/

def Call.requestID : Call → Option Identifier16
  | .completeEnrollmentTranscript _ _ _ _ requestID _ _ => some requestID
  | _ => none

/-- The document a completion is to store, by its digest. -/
def Call.document : Call → Option Digest32
  | .completeEnrollmentEvidence _ host _ _ _ => some host.baselineID
  | .completeEnrollmentTranscript _ host _ _ _ _ _ => some host.baselineID
  | _ => none

theorem Call.requestID_eq (lib : Libraries) (call : Call) :
    call.requestID = (call.completing lib).bind fun c => c.completed.map (·.requestID) := by
  cases call <;> rfl

theorem Call.document_eq (lib : Libraries) (call : Call) :
    call.document = (call.completing lib).bind fun c => c.evidence.map fun _ => c.host.baselineID := by
  cases call <;> rfl

namespace LedgerCall

def fingerprint : LedgerCall → Option Digest32
  | .enrollment call => call.completion.map (·.2.1.fingerprint)
  | .applyBaselineApproval approval _ => some approval.proposal.hostFingerprint

def token (lib : Libraries) (db : Ledger) : LedgerCall → Option Digest32
  | .enrollment call => call.token lib db.toDatabase
  | .applyBaselineApproval _ _ => none

def pendingID : LedgerCall → Option Identifier16
  | .enrollment call => call.completion.map (·.1)
  | .applyBaselineApproval _ _ => none

def requestID : LedgerCall → Option Identifier16
  | .enrollment call => call.requestID
  | .applyBaselineApproval _ _ => none

def document : LedgerCall → Option Digest32
  | .enrollment call => call.document
  | .applyBaselineApproval approval _ => some approval.proposal.newBaselineID

/-- The document an approval is to replace. -/
def parent : LedgerCall → Option Digest32
  | .enrollment _ => none
  | .applyBaselineApproval approval _ => some approval.proposal.parentBaselineID

/-- Two calls are for different hosts, with different tokens and requests. -/
structure Apart (lib : Libraries) (call other : LedgerCall) (db : Ledger) : Prop where
  fingerprint : ∀ x, call.fingerprint = some x → other.fingerprint ≠ some x
  token : ∀ d, call.token lib db = some d → other.token lib db ≠ some d
  requestID : ∀ r, call.requestID = some r → other.requestID ≠ some r

/-- Two databases have the same records for the host of a call: those under its fingerprint, its
token, its pending record, its request and the document to replace. -/
structure SameRecords (lib : Libraries) (call : LedgerCall) (db db' : Ledger) : Prop where
  hosts : ∀ x, call.fingerprint = some x → db'.hosts x = db.hosts x
  receipts : ∀ x, call.fingerprint = some x → db'.receipts x = db.receipts x
  history : ∀ x, call.fingerprint = some x → ∀ id,
    db'.baselineHistory.get (historyKey x id) = db.baselineHistory.get (historyKey x id)
  pending : ∀ id, call.pendingID = some id → db'.pending id = db.pending id
  tokens : ∀ d, call.token lib db = some d → db'.tokens d = db.tokens d
  completed : ∀ r, call.requestID = some r → db'.completedEnrollments r = db.completedEnrollments r
  parent : ∀ id, call.parent = some id → db'.baselines id = db.baselines id

/-- What a call leaves alone, and when it stores its document. -/
structure Frame (lib : Libraries) (call : LedgerCall) (db db' : Ledger) (succeeded : Bool) : Prop where
  hosts : ∀ x, call.fingerprint ≠ some x → db'.hosts x = db.hosts x
  receipts : ∀ x, call.fingerprint ≠ some x → db'.receipts x = db.receipts x
  history : ∀ x id, call.fingerprint ≠ some x →
    db'.baselineHistory.get (historyKey x id) = db.baselineHistory.get (historyKey x id)
  tokens : ∀ d, call.token lib db ≠ some d → db'.tokens d = db.tokens d
  pending : ∀ id p, db.pending id = some p → call.token lib db ≠ some p.tokenDigest →
    db'.pending id = some p
  completed : ∀ r, call.requestID ≠ some r → db'.completedEnrollments r = db.completedEnrollments r
  kept : ∀ id document, db.baselines id = some document → db'.baselines id = some document
  stored : ∀ id, db.baselines id = none →
    (db'.baselines id = none ↔ ¬ (call.document = some id ∧ succeeded = true))

section Frames

variable {lib : Libraries} {cbor : Baseline.Cbor} {db : Ledger}
variable {succeeded : Bool} {call : Call} {record : TokenRecord}

theorem Frame.unchanged {call : LedgerCall} (h : call.document = none ∨ succeeded = false) : Frame lib call db db succeeded where
  hosts := fun _ _ => rfl
  receipts := fun _ _ => rfl
  history := fun _ _ _ => rfl
  tokens := fun _ _ => rfl
  pending := fun _ _ hp _ => hp
  completed := fun _ _ => rfl
  kept := fun _ _ h => h
  stored := by
    intro id hnone
    rcases h with h | h <;> simp [hnone, h]

/-- A call that completes nothing. -/
theorem Frame.of_effectAt {db' : Database} (hdocument : call.document = none)
    (h : EffectAt (call.token lib db.toDatabase) db.toDatabase db') :
    Frame lib (.enrollment call) db { db with toDatabase := db' } succeeded := by
  obtain ⟨hhosts, hbaselines, hreceipts, hcompleted⟩ := h.effect.same
  refine ⟨fun x _ => congrFun hhosts x, fun x _ => congrFun hreceipts x, fun _ _ _ => rfl, h.tokens, ?_,
    fun r _ => congrFun hcompleted r, fun id document h => (congrFun hbaselines id).trans h, ?_⟩
  · intro id p hp _
    cases h.effect with
    | bound pending _ _ _ _ hfree _ _ => exact update_new hfree hp
    | _ => exact hp
  · intro id hnone
    simp [hbaselines, hnone, LedgerCall.document, hdocument]

/-- A completion changes what is under its own keys. -/
theorem Frame.completion {c : Completion} {pending : Pending} {db' : Database}
    (hcall : call.completing lib = some c) (hdone : c.Done pending record db.toDatabase db') :
    Frame lib (.enrollment call) db { db with toDatabase := db' } true := by
  obtain ⟨hpending, hid, -, -, -, -, -⟩ := completable_ok hdone.found.token
  have hfingerprint : LedgerCall.fingerprint (.enrollment call) = some c.host.fingerprint := by
    rw [LedgerCall.fingerprint, Call.completion_eq lib, hcall]
    rfl
  have hdigest : LedgerCall.token lib db (.enrollment call) = some pending.tokenDigest := by
    rw [LedgerCall.token, Call.token_of_completing hcall, hpending]
    rfl
  have hrequest := Call.requestID_eq lib call
  have hdocument := Call.document_eq lib call
  have hfree := hdone.found.newEvidence
  have hnewRequest := hdone.found.newRequest
  obtain rfl := hdone.left
  rw [hcall, Option.bind_some] at hrequest hdocument
  have hne {x : Digest32} (hx : LedgerCall.fingerprint (.enrollment call) ≠ some x) :
      x ≠ c.host.fingerprint := by
    rintro rfl
    exact hx hfingerprint
  constructor
  · intro x hx
    exact Function.update_of_ne (hne hx) _ _
  · intro x hx
    show receiptsWith c.host c.evidence db.receipts x = db.receipts x
    cases c.evidence with
    | none => rfl
    | some pair => exact Function.update_of_ne (hne hx) _ _
  · intro x id _
    rfl
  · intro d hd
    refine Function.update_of_ne ?_ _ _
    rintro rfl
    exact hd hdigest
  · intro id p hp hother
    refine (Function.update_of_ne ?_ _ _).trans hp
    rintro rfl
    rw [hid, hpending] at hp
    obtain rfl := Option.some.inj hp
    exact hother hdigest
  · intro r hr
    show completedWith c.completed db.completedEnrollments r = db.completedEnrollments r
    cases hcompleted : c.completed with
    | none => rfl
    | some completed =>
      refine Function.update_of_ne ?_ _ _
      rintro rfl
      rw [hcompleted] at hrequest
      exact hr hrequest
  · intro id document hstored
    show baselinesWith c.host c.evidence db.baselines id = some document
    cases hevidence : c.evidence with
    | none => exact hstored
    | some pair => exact update_new (hfree (by rw [hevidence]; rfl)).1 hstored
  · intro id hnone
    show baselinesWith c.host c.evidence db.baselines id = none ↔ _
    rw [LedgerCall.document, hdocument]
    cases c.evidence with
    | none => simp [baselinesWith, hnone]
    | some pair =>
      by_cases hsame : c.host.baselineID = id
      · simp [baselinesWith, hsame]
      · simp [baselinesWith, Function.update_of_ne (Ne.symm hsame), hnone, hsame]

theorem applyBaselineApproval_frame (approval : Approval) (now : Time) :
    let call : LedgerCall := .applyBaselineApproval approval now
    Frame lib call db (call.run lib cbor db).2 (call.run lib cbor db).1.succeeded := by
  intro call
  rw [run]
  cases hrun : Store.applyBaselineApproval lib cbor approval now db
  obtain ⟨e, rfl, rfl⟩ | ⟨rfl, -, host, parent, h, rfl⟩ := applyBaselineApproval_cases hrun
  · exact .unchanged (.inr rfl)
  · have hne {x : Digest32} (hx : some approval.proposal.hostFingerprint ≠ some x) :
        x ≠ approval.proposal.hostFingerprint := by
      rintro rfl
      exact hx rfl
    constructor
    · intro x hx
      exact Function.update_of_ne (hne hx) _ _
    · intro x _
      rfl
    · intro x id hx
      refine (Bucket.get_put _ _ _ _).trans (if_neg ?_)
      intro hkey
      have hstarts : keyOf x.toList <+: historyKey approval.proposal.hostFingerprint
          approval.proposal.newBaselineID := by
        rw [← hkey]
        exact isPrefix_historyKey.mpr rfl
      exact hne hx (isPrefix_historyKey.mp hstarts)
    · intro d _
      rfl
    · intro id p hp _
      exact hp
    · intro r _
      rfl
    · intro id document hstored
      exact update_new h.newDocument hstored
    · intro id hnone
      show Function.update db.baselines approval.proposal.newBaselineID
        (some approval.proposal.newBaseline) id = none
          ↔ ¬ (some approval.proposal.newBaselineID = some id ∧ true = true)
      by_cases hsame : approval.proposal.newBaselineID = id
      · simp [hsame]
      · simp [Function.update_of_ne (Ne.symm hsame), hnone, hsame]

/-- **What a call leaves alone.** -/
theorem run_frame (call : LedgerCall) :
    Frame lib call db (call.run lib cbor db).2 (call.run lib cbor db).1.succeeded := by
  cases call with
  | applyBaselineApproval approval now => exact applyBaselineApproval_frame approval now
  | enrollment call =>
    rw [run]
    cases hrun : call.run lib db.toDatabase
    obtain ⟨hnone, heffect⟩ | ⟨c, hc, ⟨e, rfl, rfl⟩ | ⟨rfl, pending, record, hdone⟩⟩ :=
      Call.run_cases hrun
    · exact .of_effectAt (by rw [Call.document_eq lib, hnone]; rfl) heffect
    · exact .unchanged (.inr rfl)
    · exact .completion hc hdone

end Frames

/-! ### What a call depends on -/

section Congruence

variable {lib : Libraries} {cbor : Baseline.Cbor} {call : LedgerCall} {db db' : Ledger}

/-- The token a call is about is the same in both. -/
theorem SameRecords.token_eq (h : SameRecords lib call db db') :
    call.token lib db' = call.token lib db := by
  cases call with
  | applyBaselineApproval approval now => rfl
  | enrollment call =>
    have hpending := h.pending
    cases call with
    | completeEnrollment | completeEnrollmentEvidence | completeEnrollmentTranscript =>
      simp only [LedgerCall.token, Call.token]
      rw [hpending _ rfl]
    | _ => rfl

variable {approval : Approval} {now : Time} {c : Completion} {pending : Pending} {record : TokenRecord}

theorem completable_congr {pendingID : Identifier16} {db db' : Database}
    (hpending : db'.pending pendingID = db.pending pendingID)
    (htoken : ∀ p, db.pending pendingID = some p → db'.tokens p.tokenDigest = db.tokens p.tokenDigest)
    (now : Time) : completable pendingID now db' = completable pendingID now db := by
  rw [completable, completable, hpending]
  cases hp : db.pending pendingID with
  | none => rfl
  | some p =>
    dsimp only
    rw [htoken p hp]

/-- The keys a completion is about. -/
theorem completing_keys {call : Call} (hcall : call.completing lib = some c) :
    fingerprint (.enrollment call) = some c.host.fingerprint ∧
      LedgerCall.pendingID (.enrollment call) = some c.pendingID ∧
      (∀ db : Ledger, LedgerCall.token lib db (.enrollment call) =
        (db.pending c.pendingID).map (·.tokenDigest)) ∧
      requestID (.enrollment call) = c.completed.map (·.requestID) := by
  refine ⟨?_, ?_, fun db => Call.token_of_completing hcall, ?_⟩
  · rw [fingerprint, Call.completion_eq lib, hcall]
    rfl
  · rw [LedgerCall.pendingID, Call.completion_eq lib, hcall]
    rfl
  · rw [requestID, Call.requestID_eq lib, hcall]
    rfl

/-- What a completion finds, it finds in every database with the same records that does not have
the document. -/
theorem SameRecords.completable {call : Call} {d : Database}
    (hsame : SameRecords lib (.enrollment call) db db') (hcall : call.completing lib = some c)
    (hnew : db'.baselines c.host.baselineID = none) (h : c.Done pending record db.toDatabase d) :
    Completable c.host c.evidence c.completed c.pendingID c.now pending record db'.toDatabase := by
  obtain ⟨hfingerprint, hpendingID, htoken, hrequest⟩ := completing_keys hcall
  constructor
  · rw [← h.found.token]
    refine completable_congr (hsame.pending _ hpendingID) (fun p hp => ?_) c.now
    exact hsame.tokens _ (by rw [htoken, hp]; rfl)
  · rw [hsame.hosts _ hfingerprint]
    exact h.found.newHost
  · intro hevidence
    rw [hsame.receipts _ hfingerprint]
    exact ⟨hnew, (h.found.newEvidence hevidence).2⟩
  · intro r hr
    rw [hsame.completed _ (by rw [hrequest, hr]; rfl)]
    exact h.found.newRequest r hr

/-- What a completion leaves for its host is the same. -/
theorem SameRecords.completed_same {call : Call} {evidence : Octets × Octets}
    (hsame : SameRecords lib (.enrollment call) db db') (hcall : call.completing lib = some c)
    (hid : pending.id = c.pendingID) :
    SameRecords lib (.enrollment call)
      ⟨completedDatabase c.host (some evidence) c.completed pending record c.now db.toDatabase,
        db.baselineHistory⟩
      ⟨completedDatabase c.host (some evidence) c.completed pending record c.now db'.toDatabase,
        db'.baselineHistory⟩ := by
  obtain ⟨hfingerprint, hpendingID, htoken, hrequest⟩ := completing_keys hcall
  constructor
  · intro x hx
    cases hfingerprint.symm.trans hx
    simp [completedDatabase]
  · intro x hx
    cases hfingerprint.symm.trans hx
    simp [completedDatabase, receiptsWith]
  · intro x hx id
    exact hsame.history x hx id
  · intro id hx
    cases hpendingID.symm.trans hx
    simp [completedDatabase, hid]
  · intro d hd
    rw [htoken] at hd
    obtain rfl : pending.tokenDigest = d := by simpa [completedDatabase, hid] using hd
    simp [completedDatabase]
  · intro r hr
    rw [hrequest] at hr
    obtain ⟨completed, hcompleted, rfl⟩ := Option.map_eq_some_iff.mp hr
    simp [completedDatabase, completedWith, hcompleted]
  · intro id hx
    cases hx

/-- A call that is to store a document is an approval or a completion. -/
theorem document_cases (lib : Libraries) {document : Digest32} (hdocument : call.document = some document) :
    (∃ approval now, call = .applyBaselineApproval approval now ∧
        approval.proposal.newBaselineID = document) ∨
      ∃ call' c evidence, call = .enrollment call' ∧ call'.completing lib = some c ∧
        c.evidence = some evidence ∧ c.host.baselineID = document := by
  cases call with
  | applyBaselineApproval approval now => exact .inl ⟨approval, now, rfl, Option.some.inj hdocument⟩
  | enrollment call =>
    rw [LedgerCall.document, Call.document_eq lib] at hdocument
    obtain ⟨c, hc, hevidence⟩ := Option.bind_eq_some_iff.mp hdocument
    obtain ⟨evidence, hevidence, heq⟩ := Option.map_eq_some_iff.mp hevidence
    exact .inr ⟨call, c, evidence, rfl, hc, hevidence, heq⟩

/-- A completion that succeeds was made. -/
theorem completing_succeeded {call : Call} (hcall : call.completing lib = some c)
    (hok : (run lib cbor (.enrollment call) db).1.succeeded = true) :
    ∃ pending record d, run lib cbor (.enrollment call) db = (.done (.ok ()), { db with toDatabase := d }) ∧
      c.Done pending record db.toDatabase d := by
  rw [run] at hok ⊢
  cases hrun : call.run lib db.toDatabase
  rw [hrun] at hok
  obtain ⟨hnone, -⟩ | ⟨c', hc', ⟨e, rfl, -⟩ | ⟨rfl, pending, record, hdone⟩⟩ := Call.run_cases hrun
  · cases hnone.symm.trans hcall
  · cases hok
  · cases hc'.symm.trans hcall
    exact ⟨pending, record, _, rfl, hdone⟩

/-- An approval that succeeds was found in order. -/
theorem approval_succeeded
    (hok : (run lib cbor (.applyBaselineApproval approval now) db).1.succeeded = true) :
    ApprovalChecked lib cbor approval ∧ ∃ host parent, Approvable lib cbor approval now host parent db ∧
      (run lib cbor (.applyBaselineApproval approval now) db).2 = approvedLedger approval now host db := by
  rw [run] at hok ⊢
  cases hrun : Store.applyBaselineApproval lib cbor approval now db
  rw [hrun] at hok
  obtain ⟨e, rfl, -⟩ | ⟨-, happroved⟩ := applyBaselineApproval_cases hrun
  · cases hok
  · exact happroved

/-- **What a call depends on.**  A call that is to store a document and is accepted is accepted in
every database with the same records for its host that does not have the document, and leaves the
same records. -/
theorem run_congr {document : Digest32} (hdocument : call.document = some document)
    (hsame : SameRecords lib call db db') (hnew : db'.baselines document = none)
    (hok : (call.run lib cbor db).1.succeeded = true) :
    (call.run lib cbor db').1.succeeded = true
      ∧ SameRecords lib call (call.run lib cbor db).2 (call.run lib cbor db').2
      ∧ (call.run lib cbor db').2.baselines document = (call.run lib cbor db).2.baselines document := by
  obtain ⟨approval, now, rfl, rfl⟩ | ⟨call, c, evidence, rfl, hcall, hevidence, rfl⟩ :=
    document_cases lib hdocument
  · obtain ⟨hchecked, host, parent, h, hleft⟩ := approval_succeeded hok
    have h' : Approvable lib cbor approval now host parent db' := by
      refine { h with found := ?_, newDocument := hnew, document := ?_, newKey := ?_ }
      · rw [hsame.hosts _ rfl]
        exact h.found
      · rw [hsame.parent _ rfl]
        exact h.document
      · rw [hsame.history _ rfl]
        exact h.newKey
    have hrun' : run lib cbor (.applyBaselineApproval approval now) db' =
        (.done (.ok ()), approvedLedger approval now host db') := by
      rw [run, applyBaselineApproval_ok hchecked h']
      rfl
    rw [hleft, hrun']
    refine ⟨rfl, ?_, by simp [approvedLedger]⟩
    constructor
    · intro x hx
      obtain rfl := Option.some.inj hx
      simp [approvedLedger]
    · intro x hx
      exact hsame.receipts x hx
    · intro x hx id
      simp only [approvedLedger, Bucket.get_put]
      rw [hsame.history x hx id]
    · simp [pendingID]
    · simp [token]
    · simp [requestID]
    · intro id hx
      obtain rfl := Option.some.inj hx
      by_cases hself : approval.proposal.parentBaselineID = approval.proposal.newBaselineID
      · simp [approvedLedger, hself]
      · simp only [approvedLedger, Function.update_of_ne hself]
        exact hsame.parent _ rfl
  · obtain ⟨pending, record, d, hrun, hdone⟩ := completing_succeeded hcall hok
    obtain ⟨-, hid, -, -, -, -, -⟩ := completable_ok hdone.found.token
    have hrun' := Completion.Done.run ⟨hdone.accepted, hdone.id, hdone.valid,
      hsame.completable hcall hnew hdone, rfl⟩ hcall
    rw [hrun, hdone.left, run, hrun', hevidence]
    refine ⟨rfl, hsame.completed_same hcall hid, ?_⟩
    simp [completedDatabase, baselinesWith]

/-- The host of a call has its records: the pending record with the token, and the document to
replace. -/
structure HasRecords (lib : Libraries) (call : LedgerCall) (db : Ledger) : Prop where
  pending : ∀ id, call.pendingID = some id → ∃ p, db.pending id = some p
    ∧ call.token lib db = some p.tokenDigest
  parent : ∀ id, call.parent = some id → ∃ document, db.baselines id = some document

/-- A call that is to store a document and is accepted has found no such document, and the records
of its host, which are there behind it too. -/
theorem run_has {document : Digest32} (hdocument : call.document = some document)
    (hok : (call.run lib cbor db).1.succeeded = true) :
    db.baselines document = none ∧ HasRecords lib call db
      ∧ HasRecords lib call (call.run lib cbor db).2 := by
  obtain ⟨approval, now, rfl, rfl⟩ | ⟨call, c, evidence, rfl, hcall, hevidence, rfl⟩ :=
    document_cases lib hdocument
  · obtain ⟨-, host, parent, h, -⟩ := approval_succeeded hok
    refine ⟨h.newDocument, ⟨by nofun, fun id hx => ?_⟩, ⟨by nofun, fun id hx => ?_⟩⟩
    · obtain rfl := Option.some.inj hx
      exact ⟨parent, h.document⟩
    · obtain rfl := Option.some.inj hx
      exact ⟨parent, (run_frame _).kept _ parent h.document⟩
  · obtain ⟨pending, record, d, hrun, hdone⟩ := completing_succeeded hcall hok
    obtain ⟨hpending, hid, -, -, -, -, -⟩ := completable_ok hdone.found.token
    obtain ⟨-, hpendingID, htoken, -⟩ := completing_keys hcall
    refine ⟨(hdone.found.newEvidence (by rw [hevidence]; rfl)).1, ⟨fun id hx => ?_, by nofun⟩,
      ⟨fun id hx => ?_, by nofun⟩⟩ <;> cases hpendingID.symm.trans hx
    · exact ⟨pending, hpending, by rw [htoken, hpending]; rfl⟩
    · have hafter : (run lib cbor (.enrollment call) db).2.pending c.pendingID = some
          { pending with completed := true, completedAtUnixNano := Time.unixNano c.now } := by
        rw [hrun, hdone.left, ← hid]
        exact Function.update_self _ _ _
      exact ⟨_, hafter, by rw [htoken, hafter]; rfl⟩

/-- A call for another host leaves the records of the first one alone. -/
theorem Apart.sameRecords {other : LedgerCall} {succeeded : Bool} (h : Apart lib call other db)
    (hhas : HasRecords lib call db) (hframe : Frame lib other db db' succeeded) :
    SameRecords lib call db db' where
  hosts := fun x hx => hframe.hosts x (h.fingerprint x hx)
  receipts := fun x hx => hframe.receipts x (h.fingerprint x hx)
  history := fun x hx id => hframe.history x id (h.fingerprint x hx)
  pending := by
    intro id hx
    obtain ⟨p, hp, htoken⟩ := hhas.pending id hx
    rw [hp, hframe.pending id p hp (h.token _ htoken)]
  tokens := fun d hd => hframe.tokens d (h.token d hd)
  completed := fun r hr => hframe.completed r (h.requestID r hr)
  parent := by
    intro id hx
    obtain ⟨document, hdocument⟩ := hhas.parent id hx
    rw [hdocument, hframe.kept id document hdocument]

end Congruence

end LedgerCall

/-- **Hosts are independent but for their documents.**  Let a completion with evidence or an
approval be accepted.

* In every database with the same records for its host it is accepted exactly when that does not
  have the document it is to store, and then leaves the same records and the same document.
* A call for another host in front of it changes none of these records, and makes it fail exactly
  when it succeeds in storing the same document.
* A call for another host behind it changes none of the records and not the document. -/
theorem hosts_independent (lib : Libraries) (cbor : Baseline.Cbor) {call : LedgerCall} {db : Ledger}
    {document : Digest32} (hdocument : call.document = some document)
    (hok : (call.run lib cbor db).1.succeeded = true) :
    (∀ db', call.SameRecords lib db db' →
      ((call.run lib cbor db').1.succeeded = true ↔ db'.baselines document = none) ∧
        (db'.baselines document = none →
          call.SameRecords lib (call.run lib cbor db).2 (call.run lib cbor db').2 ∧
            (call.run lib cbor db').2.baselines document
              = (call.run lib cbor db).2.baselines document)) ∧
      (∀ other, call.Apart lib other db →
        call.SameRecords lib db (other.run lib cbor db).2 ∧
          ((call.run lib cbor (other.run lib cbor db).2).1.succeeded = true ↔
            ¬ (other.document = some document ∧ (other.run lib cbor db).1.succeeded = true))) ∧
      ∀ other, call.Apart lib other (call.run lib cbor db).2 →
        call.SameRecords lib (call.run lib cbor db).2
            (other.run lib cbor (call.run lib cbor db).2).2 ∧
          ∀ octets, (call.run lib cbor db).2.baselines document = some octets →
            (other.run lib cbor (call.run lib cbor db).2).2.baselines document = some octets := by
  obtain ⟨hnew, hhas, hhas'⟩ := LedgerCall.run_has hdocument hok
  have hdepends (db' : Ledger) (hsame : call.SameRecords lib db db') :
      ((call.run lib cbor db').1.succeeded = true ↔ db'.baselines document = none) := by
    constructor
    · intro hok'
      exact (LedgerCall.run_has hdocument hok').1
    · intro hnew'
      exact (LedgerCall.run_congr hdocument hsame hnew' hok).1
  refine ⟨fun db' hsame => ⟨hdepends db' hsame, fun hnew' => ?_⟩, fun other hapart => ?_,
    fun other hapart => ?_⟩
  · exact (LedgerCall.run_congr hdocument hsame hnew' hok).2
  · have hframe : LedgerCall.Frame lib other db (other.run lib cbor db).2
        (other.run lib cbor db).1.succeeded := LedgerCall.run_frame other
    have hsame := hapart.sameRecords hhas hframe
    exact ⟨hsame, by rw [hdepends _ hsame, hframe.stored document hnew]⟩
  · have hframe : LedgerCall.Frame lib other (call.run lib cbor db).2
        (other.run lib cbor (call.run lib cbor db).2).2
        (other.run lib cbor (call.run lib cbor db).2).1.succeeded := LedgerCall.run_frame other
    exact ⟨hapart.sameRecords hhas' hframe, fun octets => hframe.kept document octets⟩

/-- Two hosts are about to be enrolled. -/
def sampleTwoHosts : Ledger :=
  (ledgerCalls sampleDigests sampleBaselines (samplePreparation 1#8 ++ samplePreparation 2#8)
    Ledger.empty).2

theorem sampleCompletion_apart (document document' : Octet) :
    (sampleCompletion 1#8 document).Apart sampleDigests (sampleCompletion 2#8 document')
      sampleTwoHosts where
  fingerprint := by
    intro x hx hx'
    have hne : (sampleHostOf 1#8 document).fingerprint ≠ (sampleHostOf 2#8 document').fingerprint :=
      show List.Vector.replicate 32 1#8 ≠ List.Vector.replicate 32 2#8 by decide
    exact hne (Option.some.inj (hx.trans hx'.symm))
  token := by
    intro d hd hd'
    have hne : (sampleTwoHosts.pending (List.Vector.replicate 16 1#8)).map (·.tokenDigest)
        ≠ (sampleTwoHosts.pending (List.Vector.replicate 16 2#8)).map (·.tokenDigest) := by
      decide +kernel
    exact hne (hd.trans hd'.symm)
  requestID := by
    intro r hr hr'
    have hne : (List.Vector.replicate 16 1#8 : Identifier16) ≠ List.Vector.replicate 16 2#8 := by decide
    exact hne (Option.some.inj (hr.trans hr'.symm))

theorem hosts_independent_sample :
    ((sampleCompletion 1#8 5#8).run sampleDigests sampleBaselines
      ((sampleCompletion 2#8 6#8).run sampleDigests sampleBaselines sampleTwoHosts).2).1.succeeded
      = true := by
  have hok : ((sampleCompletion 1#8 5#8).run sampleDigests sampleBaselines sampleTwoHosts).1.succeeded
      = true := by decide +kernel
  have hother : (sampleCompletion 2#8 6#8).document ≠ some (List.Vector.replicate 32 5#8) := by
    show some (List.Vector.replicate 32 6#8) ≠ some (List.Vector.replicate 32 5#8)
    decide
  have hindependent := (hosts_independent sampleDigests sampleBaselines rfl hok).2.1
  exact (hindependent _ (sampleCompletion_apart 5#8 6#8)).2.mpr fun h => hother h.1

/-- Two hosts with different fingerprints, tokens and requests and the same baseline document:
either of them can be enrolled, and not the one behind the other. -/
theorem hosts_share_documents :
    (sampleCompletion 1#8 5#8).Apart sampleDigests (sampleCompletion 2#8 5#8) sampleTwoHosts ∧
      ((sampleCompletion 1#8 5#8).run sampleDigests sampleBaselines sampleTwoHosts).1.succeeded
        = true ∧
      ((sampleCompletion 2#8 5#8).run sampleDigests sampleBaselines sampleTwoHosts).1.succeeded
        = true ∧
      ((sampleCompletion 1#8 5#8).run sampleDigests sampleBaselines
        ((sampleCompletion 2#8 5#8).run sampleDigests sampleBaselines sampleTwoHosts).2).1.succeeded
        = false :=
  ⟨sampleCompletion_apart 5#8 5#8, by decide +kernel, by decide +kernel, by decide +kernel⟩

end Pbns.Store
