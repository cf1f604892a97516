/-
An open bulk session: what its state means, and what one turn of the receive loop
does to it.

A session is fixed by its `BulkPlan`.  `bulkExpects` says which record the session
takes next; it does not mention buffers, chunks or the reader.  `BulkLive` is the
invariant of a healthy session, and

* `bulkTurn_open` — octets without a delimiter are put aside;
* `bulkTurn_close` — at the delimiter the expected record is delivered, and any
  other record ends the session.
-/
import Pbns.Broker

namespace Pbns

open Octets Guard

/-- What stays fixed during a bulk session. -/
structure BulkPlan where
  service : ServiceId
  requestId : RequestId
  limits : FrameLimits
  rawScratchCap : ℕ
  encodedCap : ℕ
  decodedCap : ℕ
  exactDataSize : ℕ

def Broker.plan (b : Broker) : BulkPlan :=
  ⟨b.service, b.requestId, b.limits, b.storage.rawScratchCap, b.storage.encoded.length,
    b.storage.decodedCap, b.bulkExactDataSize⟩

/-- The frame is the one due after `sequence` frames with `total` octets of data. -/
def BulkPlan.Due (plan : BulkPlan) (sequence : BitVec 32) (total : ℕ) (r : Response) : Prop :=
  r.frame.service = plan.service ∧ r.frame.requestId = plan.requestId ∧
    r.frame.sequence = sequence ∧ sequence ≠ uint32Max ∧
    (r.frame.type = messageData ∧ r.payload ≠ [] ∧ total + r.payload.length ≤ plan.exactDataSize ∨
      r.frame.type = messageComplete ∧ total = plan.exactDataSize)

instance (plan : BulkPlan) (sequence : BitVec 32) (total : ℕ) (r : Response) :
    Decidable (plan.Due sequence total r) := by
  unfold BulkPlan.Due
  infer_instance

/-- The contents of a complete record, if the session takes them next. -/
def frameExpects (plan : BulkPlan) (sequence : BitVec 32) (total : ℕ) (record : Octets) :
    Option Response :=
  match frameDecode record plan.limits plan.rawScratchCap with
  | .error _ => none
  | .ok (frame, payload) =>
    if plan.Due sequence total ⟨frame, payload⟩ then some ⟨frame, payload⟩ else none

/-- The same for the octets between two delimiters. -/
def bulkExpects (plan : BulkPlan) (sequence : BitVec 32) (total : ℕ) (s : Octets) :
    Option Response :=
  match recordVerdict plan.encodedCap s with
  | .error _ => none
  | .ok record => frameExpects plan sequence total record

/-- The invariant of a session that has not failed. -/
structure BulkLive (plan : BulkPlan) (b : Broker) : Prop where
  planEq : b.plan = plan
  initialized : b.initialized = true
  active : b.active = true
  bulkMode : b.bulkMode = true
  notFailed : b.bulkFailed = false
  deadlineActive : b.deadlineActive = true
  streamService : b.stream.service = plan.service
  streamRequestId : b.stream.requestId = plan.requestId
  streamLimit : b.stream.byteLimit = uint64Max
  streamInitialized : b.stream.initialized = true
  streamNotFailed : b.stream.failed = false
  streamTotal : b.stream.totalBytes = b.bulkReceivedDataSize
  received : b.bulkReceivedDataSize ≤ plan.exactDataSize
  completed : b.stream.complete = true → b.bulkReceivedDataSize = plan.exactDataSize
  limitsValid : limitsAreValid plan.limits = true
  dataFits : plan.limits.dataPayloadMax ≤ plan.decodedCap
  exactFits : plan.exactDataSize ≤ 16384 * (2 ^ 32 - 2)

/-- The broker behind a delivered frame. -/
def Broker.delivered (b : Broker) (record : Octets) (r : Response) : Broker :=
  { b with
    reader := recordReaderReset b.reader
    rawScratch := decodeScratch record b.limits b.rawScratch
    decoded := overwrite b.decoded r.payload
    stream := b.stream.advance r.frame r.payload
    bulkReceivedDataSize := b.bulkReceivedDataSize + r.payload.length }

section Turn

variable {δ : Type} (q : Qcbor δ) {plan : BulkPlan} {b : Broker}
variable {payload : Octets} {r : Response} {record : Octets}

theorem validatePayload_data (h : payload.length ≤ 16384) :
    validatePayload messageData payload = (.ok, false) := by
  rw [validatePayload, if_neg (by decide), if_pos rfl,
    if_pos (show payload.length ≤ dataPayloadMax from h)]

/-- An admissible DATA payload is within the protocol's bound and the session's. -/
theorem Admissible.data_length_le {limits : FrameLimits} {frame : Frame}
    (h : Admissible limits frame payload) (ht : frame.type = messageData) :
    payload.length ≤ limits.dataPayloadMax := by
  have := h.payload
  rwa [PayloadAllowed, if_pos ht] at this

theorem Admissible.complete_eq_nil {limits : FrameLimits} {frame : Frame}
    (h : Admissible limits frame payload) (ht : frame.type = messageComplete) : payload = [] := by
  have := h.payload
  rw [PayloadAllowed, ht, if_neg (by decide), if_neg (by decide), if_pos (by decide)] at this
  exact List.length_eq_zero_iff.mp this

variable (h : BulkLive plan b)

include h

/-- For the frame that is due, the stream checker agrees. -/
theorem BulkLive.expected_of_due (hc : b.stream.complete = false)
    (hadm : Admissible plan.limits r.frame r.payload)
    (hdue : plan.Due b.stream.nextSequence b.bulkReceivedDataSize r) :
    Expected b.stream r.frame r.payload := by
  obtain ⟨hs, hid, hseq, hmax, hkind⟩ := hdue
  have hbig := h.exactFits
  have htot := h.streamTotal
  have hrec := h.received
  obtain ⟨-, hdata, -⟩ := limitsAreValid_iff.mp h.limitsValid
  have hpay : (validatePayload r.frame.type r.payload).1 = .ok ∧
      b.bulkReceivedDataSize + r.payload.length ≤ plan.exactDataSize := by
    rcases hkind with ⟨ht, -, hle⟩ | ⟨ht, hle⟩
    · have hlen := hadm.data_length_le ht
      rw [ht, validatePayload_data (Nat.le_trans hlen hdata)]
      exact ⟨rfl, hle⟩
    · rw [ht, hadm.complete_eq_nil ht]
      exact ⟨rfl, by simp; omega⟩
  refine ⟨h.streamInitialized, h.streamNotFailed, hc, hs.trans h.streamService.symm,
    hid.trans h.streamRequestId.symm, hadm.flags, hseq, hmax, hpay.1, ?_⟩
  rw [h.streamLimit, htot]
  unfold uint64Max
  omega

omit h in
theorem frameExpects_eq_some {sequence : BitVec 32} {total : ℕ} :
    frameExpects plan sequence total record = some r ↔
      frameDecode record plan.limits plan.rawScratchCap = .ok (r.frame, r.payload) ∧
        plan.Due sequence total r := by
  rw [frameExpects]
  rcases frameDecode record plan.limits plan.rawScratchCap with status | ⟨frame, payload⟩
  · simp
  · simp only [Option.ite_none_right_eq_some, Option.some.injEq, Except.ok.injEq, Prod.mk.injEq]
    constructor
    · rintro ⟨hdue, rfl⟩
      exact ⟨⟨rfl, rfl⟩, hdue⟩
    · rintro ⟨⟨rfl, rfl⟩, hdue⟩
      exact ⟨hdue, rfl⟩

omit h in
theorem frameExpects_of_bulkExpects {sequence : BitVec 32} {total : ℕ} {s : Octets}
    (h : bulkExpects plan sequence total s = some r) :
    frameExpects plan sequence total s = some r := by
  rw [bulkExpects] at h
  split at h
  · simp at h
  · rename_i hv
    rwa [(recordVerdict_eq_ok.mp hv).1] at h

/-- The expected record is delivered. -/
theorem bulkRecord_of_expects (hc : b.stream.complete = false)
    (hr : frameExpects plan b.stream.nextSequence b.bulkReceivedDataSize record = some r) :
    bulkRecord q record b = (.ok r, b.delivered record r) := by
  obtain ⟨hdec, hdue⟩ := frameExpects_eq_some.mp hr
  obtain ⟨-, -, -, hadm⟩ := frameDecode_eq_ok.mp hdec
  have hexp := h.expected_of_due hc hadm hdue
  obtain ⟨-, -, -, -, hkind⟩ := hdue
  obtain rfl := h.planEq
  have hdec' : frameDecode record b.limits b.storage.rawScratchCap = .ok (r.frame, r.payload) := hdec
  rw [bulkRecord, hdec']
  simp only [streamAccept_of_expected hexp]
  rcases hkind with ⟨ht, hne, hle⟩ | ⟨ht, htot⟩
  · have hlen : r.payload.length ≤ b.storage.decodedCap :=
      Nat.le_trans (hadm.data_length_le ht) h.dataFits
    have hpos : r.payload.length ≠ 0 := fun h0 => hne (List.length_eq_zero_iff.mp h0)
    have hle' : b.bulkReceivedDataSize + r.payload.length ≤ b.bulkExactDataSize := hle
    rw [if_neg (by simp [ht]), bulkFrame, if_neg (by rw [ht]; decide), if_pos ht, if_neg hpos,
      if_neg (by simp only; omega), bulkDeliver, if_neg (by simp only; omega)]
    rfl
  · have hnil := hadm.complete_eq_nil ht
    have htot' : b.bulkReceivedDataSize = b.bulkExactDataSize := htot
    rw [if_neg (by simp [ht]), bulkFrame, if_neg (by rw [ht]; decide),
      if_neg (by rw [ht]; decide), if_neg (by simp only; omega), bulkDeliver,
      if_neg (by simp [hnil])]
    rw [Broker.delivered, show b.bulkReceivedDataSize + r.payload.length = b.bulkReceivedDataSize by
      simp [hnil]]

/-- Any other record fails the session. -/
theorem bulkRecord_of_not_expects
    (hr : frameExpects plan b.stream.nextSequence b.bulkReceivedDataSize record = none) :
    ∃ status b', status ≠ .ok ∧ bulkRecord q record b = (.error status, b') ∧
      b'.bulkFailed = true := by
  obtain rfl := h.planEq
  rw [bulkRecord]
  rcases hdec : frameDecode record b.limits b.storage.rawScratchCap with status | ⟨frame, payload⟩
  · refine ⟨status, _, ?_, rfl, rfl⟩
    rintro rfl
    exact frameDecode_ne_error_ok hdec
  have hdue : ¬ b.plan.Due b.stream.nextSequence b.bulkReceivedDataSize ⟨frame, payload⟩ := by
    intro hdue
    rw [frameExpects_eq_some.mpr ⟨hdec, hdue⟩] at hr
    simp at hr
  simp only
  by_cases htype : frame.type ≠ messageData ∧ frame.type ≠ messageComplete ∧
      frame.type ≠ messageError
  · rw [if_pos htype]
    exact ⟨_, _, by simp, rfl, rfl⟩
  rw [if_neg htype]
  by_cases hexp : Expected b.stream frame payload
  · -- the stream checker takes the frame: the size accounting must refuse it
    rw [streamAccept_of_expected hexp]
    simp only [bulkFrame]
    have hkind : ¬ (frame.type = messageData ∧ payload ≠ [] ∧
          b.bulkReceivedDataSize + payload.length ≤ b.bulkExactDataSize ∨
        frame.type = messageComplete ∧ b.bulkReceivedDataSize = b.bulkExactDataSize) := by
      intro hkind
      exact hdue ⟨hexp.service.trans h.streamService, hexp.requestId.trans h.streamRequestId,
        hexp.sequence, hexp.notExhausted, hkind⟩
    have hrec : b.bulkReceivedDataSize ≤ b.bulkExactDataSize := h.received
    split_ifs with herr hdata hzero hlimit hneq
    · exact ⟨_, _, decodeRemoteError_ne_ok _ _ _ _, rfl, rfl⟩
    · exact ⟨_, _, by simp, rfl, rfl⟩
    · exact ⟨_, _, by simp, rfl, rfl⟩
    · refine absurd (.inl ⟨hdata, ?_, ?_⟩) hkind
      · rintro rfl
        exact hzero rfl
      · omega
    · exact ⟨_, _, by simp, rfl, rfl⟩
    · exact absurd (.inr ⟨by tauto, not_not.mp hneq⟩) hkind
  · have htot : b.stream.totalBytes ≤ uint64Max := by
      have := h.received
      have := h.exactFits
      rw [h.streamTotal]
      unfold uint64Max
      omega
    obtain ⟨status, hne, hacc⟩ := streamAccept_of_not_expected h.streamInitialized
      h.streamNotFailed htot hexp
    rw [hacc]
    rcases status <;> first | exact absurd rfl hne | exact ⟨_, _, by simp, rfl, rfl⟩

/-- A delivery keeps the session healthy. -/
theorem BulkLive.delivered
    (hr : frameExpects plan b.stream.nextSequence b.bulkReceivedDataSize record = some r) :
    BulkLive plan (b.delivered record r) ∧
      (b.delivered record r).stream.complete = decide (r.frame.type = messageComplete) := by
  obtain ⟨hdec, -, -, -, -, hkind⟩ := frameExpects_eq_some.mp hr
  obtain ⟨-, -, -, hadm⟩ := frameDecode_eq_ok.mp hdec
  obtain ⟨-, hdata, -⟩ := limitsAreValid_iff.mp h.limitsValid
  have hrec := h.received
  have hfacts : (b.delivered record r).stream.complete = decide (r.frame.type = messageComplete) ∧
      b.bulkReceivedDataSize + r.payload.length ≤ plan.exactDataSize ∧
      (r.frame.type = messageComplete →
        b.bulkReceivedDataSize + r.payload.length = plan.exactDataSize) := by
    rcases hkind with ⟨ht, -, hle⟩ | ⟨ht, htot⟩
    · have hlen := Nat.le_trans (hadm.data_length_le ht) hdata
      refine ⟨?_, hle, fun h => absurd (ht.symm.trans h) (by decide)⟩
      change (validatePayload r.frame.type r.payload).2 = _
      rw [ht, validatePayload_data hlen]
      rfl
    · have hnil := hadm.complete_eq_nil ht
      refine ⟨?_, by simp [hnil]; omega, fun _ => by simp [hnil, htot]⟩
      change (validatePayload r.frame.type r.payload).2 = _
      rw [ht, hnil]
      rfl
  obtain ⟨hcomplete, hle, htot⟩ := hfacts
  refine ⟨{ h with streamTotal := ?_, received := hle, completed := ?_ }, hcomplete⟩
  · exact congrArg (· + r.payload.length) h.streamTotal
  · intro hc
    rw [hcomplete] at hc
    exact htot (of_decide_eq_true hc)

/-- The broker after the reader took `n` octets. -/
def Broker.took (b : Broker) (reader : RecordReader) (storage : Octets) (n : ℕ) : Broker :=
  { b with reader, storage.encoded := storage, receiveOffset := b.receiveOffset + n }

theorem BulkLive.took (reader : RecordReader) {storage : Octets}
    (hlen : storage.length = b.storage.encoded.length) (n : ℕ) :
    BulkLive plan (b.took reader storage n) :=
  { h with planEq := by rw [← h.planEq]; simp only [Broker.plan, Broker.took, hlen] }

/-- The receive buffer is no part of the session's health. -/
theorem BulkLive.buffered (receiveData : Octets) (receiveOffset receiveLength : ℕ) :
    BulkLive plan { b with receiveData, receiveOffset, receiveLength } :=
  { h with }

/-- Nor are the contents of the shared memory and the count of acknowledgements. -/
theorem BulkLive.reencoded {encoded : Octets} (hlen : encoded.length = b.storage.encoded.length)
    (rawScratch : Octets) (bulkNextAckSequence : BitVec 32) :
    BulkLive plan { b with storage.encoded := encoded, rawScratch, bulkNextAckSequence } :=
  { h with planEq := by rw [← h.planEq]; simp only [Broker.plan, hlen] }

omit h in
theorem Broker.unread_of_drained (he : b.receiveLength ≤ b.receiveOffset) : b.unread = [] := by
  rw [Broker.unread, List.drop_eq_nil_iff, List.length_take]
  omega

theorem BulkLive.not_closed : b.bulkClosed = false := by
  simp [Broker.bulkClosed, h.initialized, h.active, h.bulkMode, h.notFailed]

omit h

theorem Broker.unread_took (b : Broker) (reader : RecordReader) (storage : Octets) (n : ℕ) :
    (b.took reader storage n).unread = b.unread.drop n := by
  simp [Broker.unread, Broker.took, List.drop_drop]

/-- **A turn without a delimiter** puts the octets aside. -/
theorem bulkTurn_open {held : Octets} (hh : Holding b.storage.encoded b.reader held)
    (hz : 0#8 ∉ b.unread) : ∃ reader storage,
      bulkTurn q b = (none, b.took reader storage b.unread.length) ∧
        storage.length = b.storage.encoded.length ∧ Holding storage reader (held ++ b.unread) := by
  obtain ⟨reader, storage, hpush, hlen, hhold⟩ := recordReaderPush_open hh hz
  refine ⟨reader, storage, ?_, hlen, hhold⟩
  rw [bulkTurn, hpush]
  rfl

/-- **A turn that meets the delimiter** delivers the expected record and fails the
session on any other. -/
theorem bulkTurn_close (h : BulkLive plan b) (hc : b.stream.complete = false) {held t rest : Octets}
    (hh : Holding b.storage.encoded b.reader held) (hz : 0#8 ∉ t)
    (hu : b.unread = t ++ 0#8 :: rest) :
    match bulkExpects plan b.stream.nextSequence b.bulkReceivedDataSize (held ++ t) with
    | some r => ∃ reader storage, storage.length = b.storage.encoded.length ∧
        reader.initialized = true ∧
        bulkTurn q b =
          (some (.ok r), (b.took reader storage (t.length + 1)).delivered (held ++ t) r)
    | none => ∃ status b', status ≠ .ok ∧ bulkTurn q b = (some (.error status), b') ∧
        b'.bulkFailed = true := by
  obtain ⟨reader, storage, hinit, hlen, hpush⟩ := recordReaderPush_close hh hz rest
  have hlive := h.took reader hlen (t.length + 1)
  have hcap : plan.encodedCap = b.storage.encoded.length :=
    congrArg BulkPlan.encodedCap h.planEq.symm
  rw [bulkExpects, bulkTurn, hu, hpush, hcap]
  rcases hv : recordVerdict b.storage.encoded.length (held ++ t) with status | record
  · -- empty or overlong
    rcases recordVerdict_eq_error hv with rfl | rfl
    · exact ⟨_, _, by simp, rfl, rfl⟩
    · exact ⟨_, _, by simp, rfl, rfl⟩
  · simp only
    rcases hexp : frameExpects plan b.stream.nextSequence b.bulkReceivedDataSize record with _ | r
    · obtain ⟨status, b', hne, hrec, hfail⟩ := bulkRecord_of_not_expects q hlive hexp
      refine ⟨status, b', hne, ?_, hfail⟩
      change (some (bulkRecord q record (b.took reader storage (t.length + 1))).1,
        (bulkRecord q record (b.took reader storage (t.length + 1))).2) = _
      rw [hrec]
    · refine ⟨reader, storage, hlen, hinit, ?_⟩
      change (some (bulkRecord q record (b.took reader storage (t.length + 1))).1,
        (bulkRecord q record (b.took reader storage (t.length + 1))).2) = _
      rw [bulkRecord_of_expects q hlive hc hexp, (recordVerdict_eq_ok.mp hv).1]

end Turn

end Pbns
