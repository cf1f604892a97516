/-
Controlled baselines and their updates (`gateway/internal/baseline`,
`gateway/internal/baselineupdate`), and the part of the gateway's database that holds them
(`gateway/internal/store/store.go`).

A host is enrolled with a baseline, and an approval replaces the baseline it names as its
parent.  The CBOR library, the digest and the clock are inputs; an approval is any value, whether
or not a signature led to it.

* `Ledger` — the database with the history of the baselines;
* `LedgerCall.run_change` — the three things a call can do to hosts, documents and history.
-/
import Pbns.Bucket
import Pbns.Enrollment
import Mathlib

namespace Pbns.Baseline

open Octets Model

structure InventoryRule where
  memoryMiBDelta : ℕ
  storageGiBDelta : ℕ
  blockDeviceDelta : ℕ
  deriving DecidableEq

structure Record where
  version : ℕ
  measurementDigest : Digest32
  secureBoot : Bool
  setupMode : Bool
  dbDigest : Digest32
  dbxDigest : Digest32
  firmwareDigest : Digest32
  inventory : InventoryRule
  deriving DecidableEq

structure Controlled where
  record : Record
  memoryMiB : ℕ
  storageGiB : ℕ
  blockDevices : ℕ
  deriving DecidableEq

/-- The strict decoder and the canonical encoder of baselines. -/
structure Cbor where
  unmarshal : Octets → Option Controlled
  marshal : Controlled → Option Octets

def valid (controlled : Controlled) : Bool :=
  controlled.record.version = 1 && !isZero controlled.record.measurementDigest &&
    !isZero controlled.record.firmwareDigest && controlled.record.secureBoot &&
    !controlled.record.setupMode && !isZero controlled.record.dbDigest &&
    !isZero controlled.record.dbxDigest

def decode (cbor : Cbor) (encoded : Octets) : Option Controlled :=
  if encoded.length = 0 then none
  else
    match cbor.unmarshal encoded with
    | none => none
    | some controlled =>
      if valid controlled = false then none
      else if cbor.marshal controlled ≠ some encoded then none
      else some controlled

end Pbns.Baseline

namespace Pbns.BaselineUpdate

open Octets Model Baseline

inductive Error
  | invalid
  | authorization
  deriving DecidableEq

/-- `Classification`, a number -/
inductive Classification
  | changeInventory
  | changeSecurity
  | other (value : ℕ)
  deriving DecidableEq

structure Proposal where
  domain : String
  version : ℕ
  hostFingerprint : Digest32
  parentBaselineID : Digest32
  newBaselineID : Digest32
  newBaseline : Octets
  classification : Classification
  issuedAtUnixNS : Int
  expiresAtUnixNS : Int
  adminKeyID : Digest32
  deriving DecidableEq

structure Approval where
  proposal : Proposal
  proposalDigest : Digest32
  authorized : Bool
  deriving DecidableEq

def proposalDomain : String := "PBNS-BASELINE-UPDATE-v1"
def maxProposalSize : ℕ := 4 * 1024 * 1024 + 8192
def maxLifetime : Int := 24 * 3600 * 1000000000

/-- `checkedUnixNanoseconds`: the instant has to fit its 64 bits. -/
def checkedUnixNanoseconds (time : Time) : Option Int :=
  if time = Time.zero ∨ Time.unixNano time ≠ time then none else some (Time.unixNano time)

def withinValidity (proposal : Proposal) (unixNS : Int) : Bool :=
  proposal.issuedAtUnixNS ≤ unixNS && unixNS < proposal.expiresAtUnixNS

section Approvals

variable (sha256 : Octets → Digest32) (cbor : Cbor)

def validProposal (p : Proposal) : Bool :=
  p.domain = proposalDomain && p.version = 1 && !isZero p.hostFingerprint &&
    !isZero p.parentBaselineID && !isZero p.newBaselineID &&
    decide (p.newBaselineID ≠ p.parentBaselineID) && !isZero p.adminKeyID &&
    decide (0 < p.newBaseline.length) && decide (p.newBaseline.length ≤ maxProposalSize - 8192) &&
    decide (sha256 p.newBaseline = p.newBaselineID) &&
    (p.classification = .changeInventory || p.classification = .changeSecurity) &&
    decide (0 < p.issuedAtUnixNS) && decide (p.issuedAtUnixNS < p.expiresAtUnixNS) &&
    decide (p.expiresAtUnixNS - p.issuedAtUnixNS ≤ maxLifetime) &&
    (decode cbor p.newBaseline).isSome

/-- What two baselines differ in decides the classification of the change. -/
def classificationMatches (parentBytes newBytes : Octets) (c : Classification) : Bool :=
  match decode cbor parentBytes, decode cbor newBytes with
  | some parent, some updated =>
    if parentBytes = newBytes then false
    else if parent.record.measurementDigest ≠ updated.record.measurementDigest ∨
        parent.record.secureBoot ≠ updated.record.secureBoot ∨
        parent.record.setupMode ≠ updated.record.setupMode ∨
        parent.record.dbDigest ≠ updated.record.dbDigest ∨
        parent.record.dbxDigest ≠ updated.record.dbxDigest ∨
        parent.record.firmwareDigest ≠ updated.record.firmwareDigest then c = .changeSecurity
    else decide (parent.record.inventory ≠ updated.record.inventory ∨
        parent.memoryMiB ≠ updated.memoryMiB ∨ parent.storageGiB ≠ updated.storageGiB ∨
        parent.blockDevices ≠ updated.blockDevices) && c = .changeInventory
  | _, _ => false

def Approval.valid (a : Approval) : Bool :=
  a.authorized && validProposal sha256 cbor a.proposal && !isZero a.proposalDigest

def Approval.authorizeParentAt (a : Approval) (parent : Octets) (time : Time) : Except Error Int :=
  if a.valid sha256 cbor = false ∨ sha256 parent ≠ a.proposal.parentBaselineID ∨
      classificationMatches cbor parent a.proposal.newBaseline a.proposal.classification = false then
    .error .invalid
  else
    match checkedUnixNanoseconds time with
    | none => .error .authorization
    | some unixNS =>
      if withinValidity a.proposal unixNS = false then .error .authorization else .ok unixNS

end Approvals

end Pbns.BaselineUpdate

namespace Pbns.Store

open Octets Model Guard BaselineUpdate

/-! ### The history -/

structure BaselineHistory where
  hostFingerprint : Digest32
  parentBaselineID : Digest32
  newBaselineID : Digest32
  proposalDigest : Digest32
  approvedAtUnixNS : Int
  deriving DecidableEq

def validBaselineHistory (history : BaselineHistory) : Bool :=
  !isZero history.hostFingerprint && !isZero history.parentBaselineID &&
    !isZero history.newBaselineID && !isZero history.proposalDigest &&
    decide (history.parentBaselineID ≠ history.newBaselineID) &&
    decide (0 < history.approvedAtUnixNS)

/-- A key of the database, which orders its keys by their octets. -/
def keyOf (octets : Octets) : List ℕ := octets.map BitVec.toNat

/-- The key of the history of a host. -/
def historyKey (hostFingerprint newID : Digest32) : List ℕ :=
  keyOf (hostFingerprint.toList ++ newID.toList)

/-- The database with the bucket of the history. -/
structure Ledger extends Database where
  baselineHistory : Bucket ℕ BaselineHistory

def Ledger.empty : Ledger := ⟨Database.empty, Bucket.empty⟩

section Operations

variable (lib : Libraries) (cbor : Baseline.Cbor)

/-- The error of `AuthorizeParentAt`, passed on. -/
def ofUpdate {α : Type} : Except BaselineUpdate.Error α → Except Error α
  | .ok a => .ok a
  | .error .invalid => .error .proposalInvalid
  | .error .authorization => .error .authorization

/-- The transaction of `ApplyBaselineApproval`. -/
def approvalTransaction (approval : Approval) (now : Time) (db : Ledger) : Except Error Ledger := do
  let p := approval.proposal
  let host ← orReject .notFound (db.hosts p.hostFingerprint)
  rejectIf (host.validate = false ∨ host.fingerprint ≠ p.hostFingerprint) .corrupt
  rejectIf (host.baselineID ≠ p.parentBaselineID) .baselineStale
  rejectIf ((db.baselines p.newBaselineID).isSome = true) .baselineRollback
  let parent ← orReject .corrupt (db.baselines p.parentBaselineID)
  rejectIf (lib.sha256 parent ≠ p.parentBaselineID) .corrupt
  let approvedAtUnixNS ← ofUpdate (approval.authorizeParentAt lib.sha256 cbor parent now)
  let history : BaselineHistory := ⟨p.hostFingerprint, p.parentBaselineID, p.newBaselineID,
    approval.proposalDigest, approvedAtUnixNS⟩
  rejectIf (validBaselineHistory history = false) .argument
  let db := { db with
    baselines := Function.update db.baselines p.newBaselineID (some p.newBaseline)
    hosts := Function.update db.hosts p.hostFingerprint (some
      { host with baselineID := p.newBaselineID }) }
  let key := historyKey p.hostFingerprint p.newBaselineID
  rejectIf ((db.baselineHistory.get key).isSome = true) .baselineRollback
  return { db with baselineHistory := db.baselineHistory.put key history }

def applyBaselineApproval (approval : Approval) (now : Time) (db : Ledger) :
    Except Error Unit × Ledger :=
  let owned := approval.proposal.newBaseline
  if approval.valid lib.sha256 cbor = false then (.error .argument, db)
  else if owned.length = 0 ∨ maxBaselineBytes < owned.length ∨
      lib.sha256 owned ≠ approval.proposal.newBaselineID then (.error .argument, db)
  else
    match approvalTransaction lib cbor approval now db with
    | .error e => (.error e, db)
    | .ok db => (.ok (), db)

/-- The loop of `ListBaselineHistory` over the entries the cursor visits. -/
def collectHistory (hostFingerprint : Digest32) :
    List (List ℕ × BaselineHistory) → Except Error (List BaselineHistory)
  | [] => .ok []
  | (key, history) :: rest => do
    rejectIf (key.length ≠ 64) .corrupt
    rejectIf (validBaselineHistory history = false ∨ history.hostFingerprint ≠ hostFingerprint) .corrupt
    let result ← collectHistory hostFingerprint rest
    return history :: result

def listBaselineHistory (hostFingerprint : Digest32) (db : Ledger) :
    Except Error (List BaselineHistory) :=
  if isZero hostFingerprint = true then .error .argument
  else collectHistory hostFingerprint (db.baselineHistory.scan (keyOf hostFingerprint.toList))

end Operations

/-- A call to the database. -/
inductive LedgerCall
  | enrollment (call : Call)
  | applyBaselineApproval (approval : Approval) (now : Time)

def LedgerCall.run (lib : Libraries) (cbor : Baseline.Cbor) : LedgerCall → Ledger → Outcome × Ledger
  | .enrollment call, db =>
    let (outcome, database) := call.run lib db.toDatabase
    (outcome, { db with toDatabase := database })
  | .applyBaselineApproval approval now, db =>
    (Store.applyBaselineApproval lib cbor approval now db).map .done id

/-! ### What a call does -/

/-- What was accepted: an enrollment, or an approval. -/
inductive Event
  | enrolled (fingerprint baselineID : Digest32)
  | approved (entry : BaselineHistory)
  deriving DecidableEq

def Event.fingerprint : Event → Digest32
  | .enrolled fingerprint _ => fingerprint
  | .approved entry => entry.hostFingerprint

/-- The baseline of the host from then on. -/
def Event.baselineID : Event → Digest32
  | .enrolled _ baselineID => baselineID
  | .approved entry => entry.newBaselineID

/-- The entry an approval leads to. -/
def approvalEntry (approval : Approval) (now : Time) : BaselineHistory :=
  ⟨approval.proposal.hostFingerprint, approval.proposal.parentBaselineID,
    approval.proposal.newBaselineID, approval.proposalDigest, Time.unixNano now⟩

/-- What a call is to bring about. -/
def LedgerCall.events : LedgerCall → List Event
  | .enrollment call =>
    match call.completion with
    | some (_, host, _) => [.enrolled host.fingerprint host.baselineID]
    | none => []
  | .applyBaselineApproval approval now => [.approved (approvalEntry approval now)]

def Outcome.succeeded : Outcome → Bool
  | .issued (.ok _) => true
  | .begun (.ok _) => true
  | .done (.ok ()) => true
  | _ => false

def LedgerCall.accepted (lib : Libraries) (cbor : Baseline.Cbor) (call : LedgerCall) (db : Ledger) :
    List Event :=
  if (call.run lib cbor db).1.succeeded = true then call.events else []

/-- Every completion but the one without evidence. -/
def LedgerCall.WithEvidence : LedgerCall → Prop
  | .enrollment (.completeEnrollment _ _ _) => False
  | _ => True

/-- What a call can do to hosts, documents and history. -/
inductive Change (lib : Libraries) (db : Ledger) : List Event → Ledger → Prop
  | nothing {db' : Ledger} (hosts : db'.hosts = db.hosts) (baselines : db'.baselines = db.baselines)
      (history : db'.baselineHistory = db.baselineHistory) : Change lib db [] db'
  | enrolled {db' : Ledger} {host : HostRecord} {baseline : Octets} (valid : host.validate = true)
      (digest : lib.sha256 baseline = host.baselineID) (newHost : db.hosts host.fingerprint = none)
      (newDocument : db.baselines host.baselineID = none)
      (hosts : db'.hosts = Function.update db.hosts host.fingerprint (some host))
      (baselines : db'.baselines = Function.update db.baselines host.baselineID (some baseline))
      (history : db'.baselineHistory = db.baselineHistory) :
      Change lib db [.enrolled host.fingerprint host.baselineID] db'
  | approved {db' : Ledger} {host : HostRecord} {entry : BaselineHistory} {baseline : Octets}
      (valid : validBaselineHistory entry = true) (digest : lib.sha256 baseline = entry.newBaselineID)
      (found : db.hosts entry.hostFingerprint = some host)
      (parent : host.baselineID = entry.parentBaselineID)
      (newDocument : db.baselines entry.newBaselineID = none)
      (newKey : db.baselineHistory.get (historyKey entry.hostFingerprint entry.newBaselineID) = none)
      (hosts : db'.hosts = Function.update db.hosts entry.hostFingerprint (some
        { host with baselineID := entry.newBaselineID }))
      (baselines : db'.baselines
        = Function.update db.baselines entry.newBaselineID (some baseline))
      (history : db'.baselineHistory = db.baselineHistory.put
        (historyKey entry.hostFingerprint entry.newBaselineID) entry) :
      Change lib db [.approved entry] db'

section Changes

variable {lib : Libraries} {cbor : Baseline.Cbor} {db : Ledger}
variable {now : Time}

theorem authorizeParentAt_ok {approval : Approval} {parent : Octets} {unixNS : Int}
    (h : approval.authorizeParentAt lib.sha256 cbor parent now = .ok unixNS) :
    unixNS = Time.unixNano now := by
  rw [Approval.authorizeParentAt] at h
  split_ifs at h
  cases hchecked : checkedUnixNanoseconds now with
  | none => simp [hchecked] at h
  | some candidate =>
    simp only [hchecked] at h
    split_ifs at h
    obtain rfl := Except.ok.inj h
    rw [checkedUnixNanoseconds] at hchecked
    split_ifs at hchecked
    exact (Option.some.inj hchecked).symm

/-- What an accepted approval leaves. -/
def approvedLedger (approval : Approval) (now : Time) (host : HostRecord) (db : Ledger) : Ledger :=
  { db with
    baselines := Function.update db.baselines approval.proposal.newBaselineID
      (some approval.proposal.newBaseline)
    hosts := Function.update db.hosts approval.proposal.hostFingerprint (some
      { host with baselineID := approval.proposal.newBaselineID })
    baselineHistory := db.baselineHistory.put (historyKey approval.proposal.hostFingerprint
      approval.proposal.newBaselineID) (approvalEntry approval now) }

/-- What an approval has to find to be accepted. -/
structure Approvable (lib : Libraries) (cbor : Baseline.Cbor) (approval : Approval) (now : Time)
    (host : HostRecord) (parent : Octets) (db : Ledger) : Prop where
  found : db.hosts approval.proposal.hostFingerprint = some host
  valid : host.validate = true
  named : host.fingerprint = approval.proposal.hostFingerprint
  current : host.baselineID = approval.proposal.parentBaselineID
  newDocument : db.baselines approval.proposal.newBaselineID = none
  document : db.baselines approval.proposal.parentBaselineID = some parent
  digest : lib.sha256 parent = approval.proposal.parentBaselineID
  authorized : approval.authorizeParentAt lib.sha256 cbor parent now = .ok (Time.unixNano now)
  entry : validBaselineHistory (approvalEntry approval now) = true
  newKey : db.baselineHistory.get (historyKey approval.proposal.hostFingerprint
    approval.proposal.newBaselineID) = none

theorem ofUpdate_eq_ok {α : Type} {x : Except BaselineUpdate.Error α} {a : α} :
    ofUpdate x = .ok a ↔ x = .ok a := by
  rcases x with (_ | _) | _ <;> simp [ofUpdate]

theorem approvalTransaction_eq_ok {approval : Approval} {db' : Ledger} :
    approvalTransaction lib cbor approval now db = .ok db' ↔ ∃ host parent,
      Approvable lib cbor approval now host parent db ∧ db' = approvedLedger approval now host db := by
  simp only [approvalTransaction, bind_eq_ok, orReject_eq_ok, rejectIf_eq_ok, exists_const, not_or, not_not,
    Bool.not_eq_false, Option.not_isSome_iff_eq_none, ofUpdate_eq_ok]
  constructor
  · rintro ⟨host, hhost, ⟨hvalid, hnamed⟩, hcurrent, hnew, parent, hdocument, hdigest, unixNS, hat, hentry,
      hkey, h⟩
    obtain rfl := authorizeParentAt_ok hat
    exact ⟨host, parent, ⟨hhost, hvalid, hnamed, hcurrent, hnew, hdocument, hdigest, hat, hentry, hkey⟩,
      (Except.ok.inj h).symm⟩
  · rintro ⟨host, parent, h, rfl⟩
    exact ⟨host, h.found, ⟨h.valid, h.named⟩, h.current, h.newDocument, parent, h.document, h.digest, _,
      h.authorized, h.entry, h.newKey, rfl⟩

/-- The tests of an approval that need no database. -/
def ApprovalChecked (lib : Libraries) (cbor : Baseline.Cbor) (approval : Approval) : Prop :=
  approval.valid lib.sha256 cbor = true ∧ ¬ (approval.proposal.newBaseline.length = 0 ∨
    maxBaselineBytes < approval.proposal.newBaseline.length ∨
    lib.sha256 approval.proposal.newBaseline ≠ approval.proposal.newBaselineID)

/-- An approval is refused and changes nothing, or is accepted. -/
theorem applyBaselineApproval_cases {approval : Approval} {result : Except Error Unit} {db' : Ledger}
    (h : applyBaselineApproval lib cbor approval now db = (result, db')) :
    (∃ e, result = .error e ∧ db' = db) ∨
      result = .ok () ∧ ApprovalChecked lib cbor approval ∧ ∃ host parent,
        Approvable lib cbor approval now host parent db ∧ db' = approvedLedger approval now host db := by
  rw [applyBaselineApproval] at h
  split_ifs at h with hvalid howned
  · cases h
    exact .inl ⟨_, rfl, rfl⟩
  · cases h
    exact .inl ⟨_, rfl, rfl⟩
  · split at h <;> cases h
    · exact .inl ⟨_, rfl, rfl⟩
    · exact .inr ⟨rfl, ⟨Bool.of_not_eq_false hvalid, howned⟩, approvalTransaction_eq_ok.mp ‹_›⟩

theorem applyBaselineApproval_ok {approval : Approval} {host : HostRecord} {parent : Octets}
    (hchecked : ApprovalChecked lib cbor approval) (h : Approvable lib cbor approval now host parent db) :
    applyBaselineApproval lib cbor approval now db = (.ok (), approvedLedger approval now host db) := by
  rw [applyBaselineApproval, if_neg (by simp [hchecked.1]), if_neg hchecked.2,
    approvalTransaction_eq_ok.mpr ⟨host, parent, h, rfl⟩]

/-- A call that completes nothing changes tokens and pending records only. -/
theorem Effect.same {db db' : Database} (h : Effect db [] db') :
    db'.hosts = db.hosts ∧ db'.baselines = db.baselines ∧ db'.receipts = db.receipts ∧
      db'.completedEnrollments = db.completedEnrollments := by
  cases h <;> exact ⟨rfl, rfl, rfl, rfl⟩

theorem Call.completing_evidence {call : Call} {c : Completion}
    (hevidence : LedgerCall.WithEvidence (.enrollment call)) (h : call.completing lib = some c)
    (haccepted : c.refused = false) :
    ∃ baseline receipt, c.evidence = some (baseline, receipt) ∧ lib.sha256 baseline = c.host.baselineID := by
  cases call <;> cases h
  · exact hevidence.elim
  · simp only [evidenceRefused, decide_eq_false_iff_not, not_or, not_not] at haccepted
    exact ⟨_, _, rfl, haccepted.2.2.2.2⟩
  · simp only [evidenceRefused, decide_eq_true_eq, decide_eq_false_iff_not, not_or, not_not] at haccepted
    exact ⟨_, _, rfl, haccepted.1.2.2.2.2⟩

/-- **The change of a call.** -/
theorem LedgerCall.run_change (call : LedgerCall) (hevidence : call.WithEvidence) :
    Change lib db (call.accepted lib cbor db) (call.run lib cbor db).2 := by
  rw [LedgerCall.accepted]
  cases call with
  | applyBaselineApproval approval now =>
    rw [LedgerCall.run]
    cases hrun : Store.applyBaselineApproval lib cbor approval now db
    obtain ⟨e, rfl, rfl⟩ | ⟨rfl, hchecked, host, parent, h, rfl⟩ := applyBaselineApproval_cases hrun
    · exact .nothing rfl rfl rfl
    · simp only [ApprovalChecked, not_or, not_not] at hchecked
      exact .approved h.entry hchecked.2.2.2 h.found h.current h.newDocument h.newKey rfl rfl rfl
  | enrollment call =>
    rw [LedgerCall.run, LedgerCall.events, Call.completion_eq lib]
    cases hrun : call.run lib db.toDatabase
    obtain ⟨hnone, heffect⟩ | ⟨c, hc, ⟨e, rfl, rfl⟩ | ⟨rfl, pending, record, hdone⟩⟩ :=
      Call.run_cases hrun
    · obtain ⟨hhosts, hbaselines, -⟩ := heffect.effect.same
      rw [hnone, Option.map_none, ite_self]
      exact .nothing hhosts hbaselines rfl
    · exact .nothing rfl rfl rfl
    · obtain ⟨baseline, receipt, hsome, hdigest⟩ := Call.completing_evidence hevidence hc hdone.accepted
      have hleft := hdone.left
      have hnew := (hdone.found.newEvidence (by rw [hsome]; rfl)).1
      rw [hsome] at hleft
      rw [hc, Option.map_some]
      subst hleft
      exact .enrolled hdone.valid hdigest hdone.found.newHost hnew rfl rfl rfl

end Changes

/-! ### The chain of a host -/

/-- Calls in a row, with what was accepted. -/
def ledgerCalls (lib : Libraries) (cbor : Baseline.Cbor) : List LedgerCall → Ledger → List Event × Ledger
  | [], db => ([], db)
  | call :: calls, db =>
    let (events, db') := ledgerCalls lib cbor calls (call.run lib cbor db).2
    (call.accepted lib cbor db ++ events, db')

/-- The events of one host, in order. -/
def eventsOf (fingerprint : Digest32) (events : List Event) : List Event :=
  events.filter fun event => decide (event.fingerprint = fingerprint)

/-- Entries each of which starts where the one before it ends, from one baseline to another. -/
def Linked : Digest32 → List BaselineHistory → Digest32 → Prop
  | first, [], current => first = current
  | first, entry :: rest, current =>
    entry.parentBaselineID = first ∧ Linked entry.newBaselineID rest current

theorem Linked.snoc {first current : Digest32} {entries : List BaselineHistory}
    {entry : BaselineHistory} (h : Linked first entries current)
    (hparent : entry.parentBaselineID = current) :
    Linked first (entries ++ [entry]) entry.newBaselineID := by
  induction entries generalizing first with
  | nil => exact ⟨hparent.trans h.symm, rfl⟩
  | cons e entries ih => exact ⟨h.1, ih h.2⟩

/-- A chain ends at the last baseline in it. -/
theorem Linked.current {first current : Digest32} {entries : List BaselineHistory}
    (h : Linked first entries current) :
    current = ((entries.map (·.newBaselineID)).getLast?).getD first := by
  induction entries generalizing first with
  | nil => exact h.symm
  | cons e entries ih =>
    rw [ih h.2, List.map_cons, List.getLast?_cons]
    rfl

/-- The baselines of a chain, the first one included. -/
def chainIDs (first : Digest32) (entries : List BaselineHistory) : List Digest32 :=
  first :: entries.map (·.newBaselineID)

/-- The chain of one host, with its documents. -/
structure HostChain (lib : Libraries) (events : List Event) (db : Ledger) (fingerprint : Digest32)
    (current first : Digest32) (entries : List BaselineHistory) : Prop where
  events_eq : eventsOf fingerprint events = .enrolled fingerprint first :: entries.map .approved
  linked : Linked first entries current
  nodup : (chainIDs first entries).Nodup
  documents : ∀ id ∈ chainIDs first entries,
    ∃ document, db.baselines id = some document ∧ lib.sha256 document = id

/-- Hosts, documents and history fit together. -/
structure Lineage (lib : Libraries) (events : List Event) (db : Ledger) : Prop where
  absent : ∀ fingerprint, db.hosts fingerprint = none → eventsOf fingerprint events = []
  named : ∀ fingerprint host, db.hosts fingerprint = some host → isZero fingerprint = false
  chains : ∀ fingerprint host, db.hosts fingerprint = some host →
    ∃ first entries, HostChain lib events db fingerprint host.baselineID first entries
  history : ∀ key entry, db.baselineHistory.get key = some entry ↔ .approved entry ∈ events
    ∧ key = historyKey entry.hostFingerprint entry.newBaselineID
  valid : ∀ entry, .approved entry ∈ events → validBaselineHistory entry = true

section Chains

variable {lib : Libraries} {cbor : Baseline.Cbor} {db db' : Ledger} {events events' : List Event}

theorem Lineage.empty : Lineage lib [] Ledger.empty where
  absent := fun _ _ => rfl
  named := fun _ _ h => absurd h (by simp [Ledger.empty, Database.empty])
  chains := fun _ _ h => absurd h (by simp [Ledger.empty, Database.empty])
  history := fun _ _ => by simp [Ledger.empty, Bucket.get_eq_some, Bucket.empty]
  valid := fun _ h => absurd h (by simp)

theorem eventsOf_append (fingerprint : Digest32) (events events' : List Event) :
    eventsOf fingerprint (events ++ events') = eventsOf fingerprint events
      ++ eventsOf fingerprint events' :=
  List.filter_append _ _

variable {fingerprint : Digest32}

theorem eventsOf_own {event : Event} (h : event.fingerprint = fingerprint) :
    eventsOf fingerprint [event] = [event] := by
  simp [eventsOf, h]

theorem eventsOf_other {event : Event} (h : fingerprint ≠ event.fingerprint) : eventsOf fingerprint [event] = [] := by
  simp [eventsOf, Ne.symm h]

/-- A document that is stored stays. -/
theorem Change.documents (h : Change lib db events db') {id : Digest32} {document : Octets}
    (hdocument : db.baselines id = some document) : db'.baselines id = some document := by
  cases h with
  | nothing hosts baselines history => rw [baselines, hdocument]
  | enrolled valid digest newHost newDocument hosts baselines history =>
    rw [baselines, Function.update_of_ne, hdocument]
    rintro rfl
    cases hdocument.symm.trans newDocument
  | approved valid digest found parent newDocument newKey hosts baselines history =>
    rw [baselines, Function.update_of_ne, hdocument]
    rintro rfl
    cases hdocument.symm.trans newDocument

/-- A chain is kept as long as nothing happens to its host. -/
theorem HostChain.kept {current first : Digest32} {entries : List BaselineHistory}
    (h : HostChain lib events db fingerprint current first entries)
    (hchange : Change lib db events' db') (hother : eventsOf fingerprint events' = []) :
    HostChain lib (events ++ events') db' fingerprint current first entries where
  events_eq := by rw [eventsOf_append, hother, List.append_nil, h.events_eq]
  linked := h.linked
  nodup := h.nodup
  documents := by
    intro id hid
    obtain ⟨document, hdocument, hdigest⟩ := h.documents id hid
    exact ⟨document, hchange.documents hdocument, hdigest⟩

/-- A host that is enrolled starts a chain. -/
theorem Lineage.enroll {host : HostRecord} {baseline : Octets} (h : Lineage lib events db)
    (hchange : Change lib db [.enrolled host.fingerprint host.baselineID] db')
    (hvalid : host.validate = true) (hdigest : lib.sha256 baseline = host.baselineID)
    (hnew : db.hosts host.fingerprint = none)
    (hhosts : db'.hosts = Function.update db.hosts host.fingerprint (some host))
    (hbaselines : db'.baselines = Function.update db.baselines host.baselineID (some baseline))
    (hhistory : db'.baselineHistory = db.baselineHistory) :
    Lineage lib (events ++ [.enrolled host.fingerprint host.baselineID]) db' := by
  have hother {fingerprint : Digest32} (hne : fingerprint ≠ host.fingerprint) :
      eventsOf fingerprint [.enrolled host.fingerprint host.baselineID] = [] := eventsOf_other hne
  have hown : eventsOf host.fingerprint [.enrolled host.fingerprint host.baselineID]
      = [.enrolled host.fingerprint host.baselineID] := eventsOf_own rfl
  constructor
  · intro fingerprint hnone
    rw [hhosts] at hnone
    have hne : fingerprint ≠ host.fingerprint := by
      rintro rfl
      simp at hnone
    rw [Function.update_of_ne hne] at hnone
    rw [eventsOf_append, h.absent fingerprint hnone, hother hne]
    rfl
  · intro fingerprint host' hfound
    rw [hhosts] at hfound
    rcases update_eq_some hfound with ⟨rfl, rfl⟩ | ⟨-, hfound⟩
    · simp [HostRecord.validate] at hvalid
      exact hvalid.1.1
    · exact h.named fingerprint host' hfound
  · intro fingerprint host' hfound
    rw [hhosts] at hfound
    rcases update_eq_some hfound with ⟨rfl, rfl⟩ | ⟨hne, hfound⟩
    · refine ⟨host'.baselineID, [], ?_, rfl, by simp [chainIDs], ?_⟩
      · rw [eventsOf_append, h.absent _ hnew, hown]
        rfl
      · intro id hid
        obtain rfl : id = host'.baselineID := by simpa [chainIDs] using hid
        exact ⟨baseline, by rw [hbaselines, Function.update_self], hdigest⟩
    · obtain ⟨first, entries, hchain⟩ := h.chains fingerprint host' hfound
      exact ⟨first, entries, hchain.kept hchange (hother hne)⟩
  · intro key entry
    rw [hhistory, h.history]
    simp
  · intro entry hentry
    exact h.valid entry (by simpa using hentry)

/-- An approval that is accepted makes the chain of its host longer. -/
theorem Lineage.approve {host : HostRecord} {entry : BaselineHistory} {baseline : Octets}
    (h : Lineage lib events db) (hchange : Change lib db [.approved entry] db')
    (hvalid : validBaselineHistory entry = true)
    (hdigest : lib.sha256 baseline = entry.newBaselineID)
    (hfound : db.hosts entry.hostFingerprint = some host)
    (hparent : host.baselineID = entry.parentBaselineID)
    (hnewDocument : db.baselines entry.newBaselineID = none)
    (hnewKey : db.baselineHistory.get (historyKey entry.hostFingerprint entry.newBaselineID) = none)
    (hhosts : db'.hosts = Function.update db.hosts entry.hostFingerprint (some
      { host with baselineID := entry.newBaselineID }))
    (hbaselines : db'.baselines = Function.update db.baselines entry.newBaselineID (some baseline))
    (hhistory : db'.baselineHistory = db.baselineHistory.put
      (historyKey entry.hostFingerprint entry.newBaselineID) entry) :
    Lineage lib (events ++ [.approved entry]) db' := by
  have hother {fingerprint : Digest32} (hne : fingerprint ≠ entry.hostFingerprint) :
      eventsOf fingerprint [.approved entry] = [] := eventsOf_other hne
  have hown : eventsOf entry.hostFingerprint [.approved entry] = [.approved entry] := eventsOf_own rfl
  constructor
  · intro fingerprint hnone
    rw [hhosts] at hnone
    have hne : fingerprint ≠ entry.hostFingerprint := by
      rintro rfl
      simp at hnone
    rw [Function.update_of_ne hne] at hnone
    rw [eventsOf_append, h.absent fingerprint hnone, hother hne]
    rfl
  · intro fingerprint host' hfound'
    rw [hhosts] at hfound'
    rcases update_eq_some hfound' with ⟨rfl, -⟩ | ⟨-, hfound'⟩
    · exact h.named _ host hfound
    · exact h.named fingerprint host' hfound'
  · intro fingerprint host' hfound'
    rw [hhosts] at hfound'
    rcases update_eq_some hfound' with ⟨rfl, rfl⟩ | ⟨hne, hfound'⟩
    · obtain ⟨first, entries, hchain⟩ := h.chains _ host hfound
      -- the new document was not stored, so it is not one of the chain
      have hfresh : entry.newBaselineID ∉ chainIDs first entries := by
        intro hmem
        obtain ⟨document, hdocument, -⟩ := hchain.documents _ hmem
        cases hnewDocument.symm.trans hdocument
      have hids : chainIDs first (entries ++ [entry])
          = chainIDs first entries ++ [entry.newBaselineID] := by
        simp [chainIDs]
      refine ⟨first, entries ++ [entry], ?_, hchain.linked.snoc hparent.symm, ?_, ?_⟩
      · rw [eventsOf_append, hchain.events_eq, hown, List.map_append]
        rfl
      · rw [hids]
        refine List.nodup_append.mpr ⟨hchain.nodup, by simp, ?_⟩
        rintro a ha b hb rfl
        exact hfresh (List.mem_singleton.mp hb ▸ ha)
      · intro id hid
        rw [hids, List.mem_append, List.mem_singleton] at hid
        rcases hid with hid | rfl
        · obtain ⟨document, hdocument, hsha⟩ := hchain.documents id hid
          exact ⟨document, hchange.documents hdocument, hsha⟩
        · exact ⟨baseline, by rw [hbaselines, Function.update_self], hdigest⟩
    · obtain ⟨first, entries, hchain⟩ := h.chains fingerprint host' hfound'
      exact ⟨first, entries, hchain.kept hchange (hother hne)⟩
  · intro key entry'
    rw [hhistory, Bucket.get_put, List.mem_append, List.mem_singleton, Event.approved.injEq]
    by_cases hkey : key = historyKey entry.hostFingerprint entry.newBaselineID
    · rw [if_pos hkey, Option.some.injEq]
      constructor
      · rintro rfl
        exact ⟨.inr rfl, hkey⟩
      · rintro ⟨hmem | rfl, hkey'⟩
        · have hget := (h.history key entry').mpr ⟨hmem, hkey'⟩
          rw [hkey, hnewKey] at hget
          simp at hget
        · rfl
    · rw [if_neg hkey, h.history]
      constructor
      · rintro ⟨hmem, hkey'⟩
        exact ⟨.inl hmem, hkey'⟩
      · rintro ⟨hmem | rfl, hkey'⟩
        · exact ⟨hmem, hkey'⟩
        · exact absurd hkey' hkey
  · intro entry' hmem
    rw [List.mem_append, List.mem_singleton, Event.approved.injEq] at hmem
    rcases hmem with hmem | rfl
    · exact h.valid entry' hmem
    · exact hvalid

/-- A call keeps the invariant. -/
theorem Lineage.change (h : Lineage lib events db) (hchange : Change lib db events' db') :
    Lineage lib (events ++ events') db' := by
  have hcopy := hchange
  cases hchange with
  | nothing hosts baselines history =>
    rw [List.append_nil]
    refine ⟨?_, ?_, ?_, ?_, h.valid⟩
    · rw [hosts]
      exact h.absent
    · rw [hosts]
      exact h.named
    · rw [hosts]
      intro fingerprint host hfound
      obtain ⟨first, entries, hchain⟩ := h.chains fingerprint host hfound
      have hkept := hchain.kept hcopy rfl
      rw [List.append_nil] at hkept
      exact ⟨first, entries, hkept⟩
    · rw [history]
      exact h.history
  | enrolled valid digest newHost newDocument hosts baselines history =>
    exact h.enroll hcopy valid digest newHost hosts baselines history
  | approved valid digest found parent newDocument newKey hosts baselines history =>
    exact h.approve hcopy valid digest found parent newDocument newKey hosts baselines history

/-- **Any number of calls.** -/
theorem Lineage.calls {calls : List LedgerCall} (hcalls : ∀ call ∈ calls, call.WithEvidence)
    (h : Lineage lib events db) :
    Lineage lib (events ++ (ledgerCalls lib cbor calls db).1) (ledgerCalls lib cbor calls db).2 := by
  induction calls generalizing events db with
  | nil =>
    rw [ledgerCalls, List.append_nil]
    exact h
  | cons call calls ih =>
    have hcall : Change lib db (call.accepted lib cbor db) (call.run lib cbor db).2 :=
      LedgerCall.run_change call (hcalls call List.mem_cons_self)
    have hrest := ih (fun c hc => hcalls c (List.mem_cons_of_mem _ hc)) (h.change hcall)
    rw [List.append_assoc] at hrest
    exact hrest

/-- A document stays through any calls. -/
theorem ledgerCalls_documents {calls : List LedgerCall} (hcalls : ∀ call ∈ calls, call.WithEvidence)
    {id : Digest32} {document : Octets} (hdocument : db.baselines id = some document) :
    (ledgerCalls lib cbor calls db).2.baselines id = some document := by
  induction calls generalizing db with
  | nil => exact hdocument
  | cons call calls ih =>
    have hcall : Change lib db (call.accepted lib cbor db) (call.run lib cbor db).2 :=
      LedgerCall.run_change call (hcalls call List.mem_cons_self)
    exact ih (fun c hc => hcalls c (List.mem_cons_of_mem _ hc)) (hcall.documents hdocument)

/-! ### The listing -/

theorem length_historyKey (fingerprint newID : Digest32) : (historyKey fingerprint newID).length = 64 := by
  simp [historyKey, keyOf]

/-- The keys of a host are those that start with its fingerprint. -/
theorem isPrefix_historyKey {fingerprint' newID : Digest32} :
    keyOf fingerprint.toList <+: historyKey fingerprint' newID ↔ fingerprint = fingerprint' := by
  have hkey : historyKey fingerprint' newID = keyOf fingerprint'.toList ++ keyOf newID.toList := by
    rw [historyKey, keyOf, List.map_append]
    rfl
  rw [hkey]
  constructor
  · rintro ⟨rest, hrest⟩
    have hlen : (keyOf fingerprint.toList).length = (keyOf fingerprint'.toList).length := by
      simp [keyOf]
    have heq := (List.append_inj hrest hlen).1
    rw [keyOf, keyOf, List.map_inj_right fun _ _ => BitVec.eq_of_toNat_eq] at heq
    exact List.Vector.eq _ _ heq
  · rintro rfl
    exact List.prefix_append _ _

theorem collectHistory_ok {entries : List (List ℕ × BaselineHistory)}
    (h : ∀ e ∈ entries, e.1.length = 64 ∧ validBaselineHistory e.2 = true
      ∧ e.2.hostFingerprint = fingerprint) :
    collectHistory fingerprint entries = .ok (entries.map Prod.snd) := by
  induction entries with
  | nil => rfl
  | cons e entries ih =>
    obtain ⟨key, entry⟩ := e
    obtain ⟨hlength, hvalid, hfingerprint⟩ := h (key, entry) List.mem_cons_self
    rw [collectHistory, rejectIf_bind_of_not (by simpa using hlength),
      rejectIf_bind_of_not (not_or.mpr ⟨by simp [hvalid], not_not.mpr hfingerprint⟩),
      ih fun e he => h e (List.mem_cons_of_mem _ he)]
    rfl

/-- The listing of a host is its chain, in the order of the keys. -/
theorem Lineage.listing (h : Lineage lib events db) {current first : Digest32}
    {entries : List BaselineHistory} (hzero : isZero fingerprint = false)
    (hchain : HostChain lib events db fingerprint current first entries) :
    ∃ listed, listBaselineHistory fingerprint db = .ok listed ∧ listed.Perm entries := by
  have hmem (entry : BaselineHistory) : entry ∈ entries
      ↔ .approved entry ∈ events ∧ entry.hostFingerprint = fingerprint := by
    have hevents : .approved entry ∈ eventsOf fingerprint events ↔ entry ∈ entries := by
      rw [hchain.events_eq]
      simp
    rw [← hevents, eventsOf, List.mem_filter, decide_eq_true_eq]
    rfl
  -- what the cursor visits
  have hscan (key : List ℕ) (entry : BaselineHistory) :
      (key, entry) ∈ db.baselineHistory.scan (keyOf fingerprint.toList)
        ↔ entry ∈ entries ∧ key = historyKey entry.hostFingerprint entry.newBaselineID := by
    rw [Bucket.mem_scan, h.history, hmem]
    constructor
    · rintro ⟨hstarts, hevent, rfl⟩
      exact ⟨⟨hevent, (isPrefix_historyKey.mp hstarts).symm⟩, rfl⟩
    · rintro ⟨⟨hevent, rfl⟩, rfl⟩
      exact ⟨isPrefix_historyKey.mpr rfl, hevent, rfl⟩
  refine ⟨(db.baselineHistory.scan (keyOf fingerprint.toList)).map Prod.snd, ?_, ?_⟩
  · rw [listBaselineHistory, if_neg (by simp [hzero])]
    refine collectHistory_ok fun e he => ?_
    obtain ⟨hentry, hkey⟩ := (hscan e.1 e.2).mp he
    obtain ⟨hevent, hfingerprint⟩ := (hmem e.2).mp hentry
    exact ⟨by rw [hkey, length_historyKey], h.valid _ hevent, hfingerprint⟩
  · have hentries : entries.Nodup := by
      have hids := (List.nodup_cons.mp hchain.nodup).2
      exact List.Nodup.of_map _ hids
    have hlisted : ((db.baselineHistory.scan (keyOf fingerprint.toList)).map Prod.snd).Nodup := by
      have hkeys : (db.baselineHistory.scan (keyOf fingerprint.toList)).Nodup :=
        (Bucket.pairwise_scan _ _).imp fun hlt heq => absurd hlt (by rw [heq]; exact lt_irrefl _)
      refine List.Nodup.map_on ?_ hkeys
      -- the entry gives the key
      rintro ⟨key, entry⟩ he ⟨key', entry'⟩ he' rfl
      rw [((hscan _ _).mp he).2, ((hscan _ _).mp he').2]
    refine (List.perm_ext_iff_of_nodup hlisted hentries).mpr fun entry => ?_
    rw [List.mem_map]
    constructor
    · rintro ⟨⟨key, entry'⟩, he, rfl⟩
      exact ((hscan _ _).mp he).1
    · intro hentry
      exact ⟨(_, entry), (hscan _ _).mpr ⟨hentry, rfl⟩, rfl⟩

end Chains

/-- **Baseline history is one forward chain.**  After any calls on an empty database, whatever
the approvals and the clock:

* the events of an enrolled host are its enrollment and then the approvals that were accepted,
  each for the baseline the one before it led to, and the host's baseline is the last one;
* no baseline comes twice, and the history that is listed for the host is the chain;
* each of them has its document, which stays the same through all later calls;
* an approval that is refused changes nothing. -/
theorem baseline_history_chain (lib : Libraries) (cbor : Baseline.Cbor) {calls : List LedgerCall}
    (hcalls : ∀ call ∈ calls, call.WithEvidence) {events : List Event} {db : Ledger}
    (hrun : ledgerCalls lib cbor calls Ledger.empty = (events, db)) :
    (∀ fingerprint host, db.hosts fingerprint = some host → ∃ first entries listed,
      eventsOf fingerprint events = .enrolled fingerprint first :: entries.map .approved ∧
        Linked first entries host.baselineID ∧
        host.baselineID = ((entries.map (·.newBaselineID)).getLast?).getD first ∧
        (chainIDs first entries).Nodup ∧
        listBaselineHistory fingerprint db = .ok listed ∧ listed.Perm entries ∧
        ∀ id ∈ chainIDs first entries, ∃ document, db.baselines id = some document ∧
          lib.sha256 document = id ∧
          ∀ later : List LedgerCall, (∀ call ∈ later, call.WithEvidence) →
            (ledgerCalls lib cbor later db).2.baselines id = some document) ∧
      ∀ approval now e, (applyBaselineApproval lib cbor approval now db).1 = .error e →
        (applyBaselineApproval lib cbor approval now db).2 = db := by
  have hlineage : Lineage lib ([] ++ (ledgerCalls lib cbor calls Ledger.empty).1)
      (ledgerCalls lib cbor calls Ledger.empty).2 := Lineage.empty.calls hcalls
  rw [List.nil_append, hrun] at hlineage
  constructor
  · intro fingerprint host hfound
    obtain ⟨first, entries, hchain⟩ := hlineage.chains fingerprint host hfound
    obtain ⟨listed, hlisted, hperm⟩ :=
      hlineage.listing (hlineage.named fingerprint host hfound) hchain
    refine ⟨first, entries, listed, hchain.events_eq, hchain.linked, hchain.linked.current,
      hchain.nodup, hlisted, hperm, fun id hid => ?_⟩
    obtain ⟨document, hdocument, hdigest⟩ := hchain.documents id hid
    exact ⟨document, hdocument, hdigest, fun later hlater => ledgerCalls_documents hlater hdocument⟩
  · intro approval now e herror
    obtain ⟨-, -, hsame⟩ | ⟨hok, -⟩ :=
      applyBaselineApproval_cases (rfl : applyBaselineApproval lib cbor approval now db = (_, _))
    · exact hsame
    · cases herror.symm.trans hok

/-! ### Two hosts -/

/-- A digest that repeats the first octet. -/
def sampleDigests : Libraries where
  sha256 octets := List.Vector.replicate 32 (octets.headD 0#8)
  decodeString _ := none
  encodeToString _ := ""

/-- Baselines of one octet, the memory of the host. -/
def sampleBaselines : Baseline.Cbor where
  unmarshal octets := octets.head?.map fun octet =>
    ⟨⟨1, List.Vector.replicate 32 1#8, true, false, List.Vector.replicate 32 1#8,
      List.Vector.replicate 32 1#8, List.Vector.replicate 32 1#8, ⟨0, 0, 0⟩⟩, octet.toNat, 0, 0⟩
  marshal controlled := some [BitVec.ofNat 8 controlled.memoryMiB]

/-- The host with the given octet, with a baseline of one octet. -/
def sampleHostOf (octet document : Octet) : HostRecord :=
  ⟨List.Vector.replicate 32 octet, [1#8], [], [], [], List.Vector.replicate 32 0#8, .software,
    List.Vector.replicate 32 document, 1⟩

/-- The completion of the host's enrollment. -/
def sampleCompletion (octet document : Octet) : LedgerCall :=
  .enrollment (.completeEnrollmentTranscript (List.Vector.replicate 16 octet)
    (sampleHostOf octet document) [document] [octet] (List.Vector.replicate 16 octet)
    (List.Vector.replicate 32 octet) 5900000000)

/-- Its token is created and bound. -/
def samplePreparation (octet : Octet) : List LedgerCall :=
  [.enrollment (.createEnrollment 1000000000 5000000000 fun _ => some (List.Vector.replicate 32 octet)),
    .enrollment (.beginEnrollmentSecret (List.replicate 32 octet) (List.Vector.replicate 32 octet)
      5500000000 5500000000 fun _ => some (List.Vector.replicate 16 octet))]

/-- An approval of a new baseline for the host. -/
def sampleApproval (octet parent document : Octet) : LedgerCall :=
  .applyBaselineApproval
    ⟨⟨proposalDomain, 1, List.Vector.replicate 32 octet, List.Vector.replicate 32 parent,
      List.Vector.replicate 32 document, [document], .changeInventory, 1, 6000000000,
      List.Vector.replicate 32 1#8⟩, List.Vector.replicate 32 2#8, true⟩ 5900000000

/-- A host is enrolled, and its baseline is replaced once; the second approval is stale. -/
def sampleLedgerCalls : List LedgerCall :=
  samplePreparation 1#8 ++ [sampleCompletion 1#8 5#8, sampleApproval 1#8 5#8 6#8,
    sampleApproval 1#8 5#8 7#8]

theorem baseline_history_chain_sample : ∃ events db first entry,
    ledgerCalls sampleDigests sampleBaselines sampleLedgerCalls Ledger.empty = (events, db) ∧
      events = [.enrolled (List.Vector.replicate 32 1#8) first, .approved entry] ∧
      Linked first [entry] (List.Vector.replicate 32 6#8) ∧
      listBaselineHistory (List.Vector.replicate 32 1#8) db = .ok [entry] := by
  rcases hrun : ledgerCalls sampleDigests sampleBaselines sampleLedgerCalls Ledger.empty with
    ⟨events, db⟩
  have hdb : (ledgerCalls sampleDigests sampleBaselines sampleLedgerCalls Ledger.empty).2 = db := by
    rw [hrun]
  have hall : (ledgerCalls sampleDigests sampleBaselines sampleLedgerCalls Ledger.empty).1 = events := by
    rw [hrun]
  have hfound : db.hosts (List.Vector.replicate 32 1#8) = some (sampleHostOf 1#8 6#8) := by
    rw [← hdb]
    decide +kernel
  have hevents : eventsOf (List.Vector.replicate 32 1#8) events = events ∧ events.length = 2 := by
    rw [← hall]
    decide +kernel
  have hcalls : ∀ call ∈ sampleLedgerCalls, call.WithEvidence := by
    intro call hcall
    simp only [sampleLedgerCalls, samplePreparation, List.cons_append, List.nil_append, List.mem_cons,
      List.not_mem_nil, or_false] at hcall
    rcases hcall with rfl | rfl | rfl | rfl | rfl <;> exact trivial
  obtain ⟨first, entries, listed, hchain, hlinked, -, -, hlisted, hperm, -⟩ :=
    (baseline_history_chain sampleDigests sampleBaselines hcalls hrun).1 _ _ hfound
  rw [hevents.1] at hchain
  obtain ⟨entry, rfl⟩ : ∃ entry, entries = [entry] := by
    have hlength := hevents.2
    rw [hchain, List.length_cons, List.length_map] at hlength
    exact List.length_eq_one_iff.mp (by omega)
  rw [List.perm_singleton.mp hperm] at hlisted
  exact ⟨events, db, first, entry, rfl, hchain, hlinked, hlisted⟩

end Pbns.Store
