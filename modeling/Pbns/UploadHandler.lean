/-
The upload of the attestation evidence from end to end: the loop of the gateway that receives
it (`gateway/internal/attestation/handler.go`) behind the client of `Pbns.Upload`.

The gateway reads the octets of the records the transport took, in order, and may stop reading
anywhere.

* `receiveCiphertext_all` — the records of a whole upload give the ciphertext;
* `receiveCiphertext_ok` — nothing is returned without a COMPLETE, and then it is what came
  before it;
* `upload_intact` — both, for what the client's run leaves on the wire.
-/
import Pbns.RecoveryHandler
import Pbns.Upload

namespace Pbns.Server

open Octets Guard

/-- `ProtocolError` -/
structure ProtocolError where
  code : ℕ
  detail : String
  deriving DecidableEq

/-- `ReceiveUpload` of a record that has been read. -/
def Stream.receiveUpload (stream : Stream) (record : Octets) : Except Error Wire.Frame := do
  let frame ← ofWire (Wire.decode stream.validator record)
  rejectIf (frame.service ≠ stream.service ∨ frame.requestId ≠ stream.requestId ∨
    (frame.type ≠ messageData ∧ frame.type ≠ messageComplete ∧ frame.type ≠ messageCancel))
    .streamCorrelation
  .ok frame

end Pbns.Server

namespace Pbns.Attestation

open Octets Guard Server

def maxEventLogSize : ℕ := 4 * 1024 * 1024
def maxInventorySize : ℕ := 64 * 1024
def maxEvidenceSize : ℕ := maxEventLogSize + maxInventorySize + 8192
def maxSignedEvidenceSize : ℕ := maxEvidenceSize + 256
def maxEncryptedEvidenceSize : ℕ := maxSignedEvidenceSize + 512

/-- `receiveCiphertext` on the octets that arrive, which end where nothing more comes; `none`
when the loop is still going after the given number of rounds. -/
def receiveCiphertext (stream : Stream) :
    ℕ → Octets → BitVec 32 → Octets → Option (Except ProtocolError Octets)
  | 0, _, _, _ => none
  | rounds + 1, ciphertext, sequence, incoming =>
    match readSlice stream.bufferSize incoming with
    | some (.ok (record, rest)) =>
      match stream.receiveUpload record with
      | .error _ => some (.error ⟨3, "attestation_upload_invalid"⟩)
      | .ok frame =>
        if frame.type = messageCancel then some (.error ⟨8, "attestation_upload_cancelled"⟩)
        else if frame.sequence ≠ sequence then some (.error ⟨3, "attestation_upload_sequence"⟩)
        else if frame.type = messageComplete then
          if ciphertext.length = 0 then some (.error ⟨3, "attestation_upload_empty"⟩)
          else some (.ok ciphertext)
        else if frame.type ≠ messageData ∨ frame.payload.length = 0
            ∨ maxEncryptedEvidenceSize - ciphertext.length < frame.payload.length then
          some (.error ⟨3, "attestation_upload_limit"⟩)
        else if sequence = uint32Max then some (.error ⟨3, "attestation_upload_sequence"⟩)
        else receiveCiphertext stream rounds (ciphertext ++ frame.payload) (sequence + 1#32) rest
    | _ => some (.error ⟨3, "attestation_upload_invalid"⟩)

/-- The decoder of a connection of the gateway. -/
def connectionDecoder : Wire.Decoder := ⟨Wire.limitsOf defaultLimits⟩

/-- What the receiver returns on a connection: the first record is the request, which is for
`Handle` to judge, and the upload is behind it. -/
def uploadReceived (rounds : ℕ) (incoming : Octets) : Option (Except ProtocolError Octets) :=
  match readSlice (max 16 connectionDecoder.limits.encodedRecordMax.toNat) incoming with
  | some (.ok (record, rest)) =>
    match Wire.decode connectionDecoder record with
    | .ok request =>
      receiveCiphertext (newStream connectionDecoder request.toFrame) rounds [] 0#32 rest
    | .error _ => none
  | _ => none

section Receive

variable {requestId : RequestId}

/-- A frame of the upload, as the gateway has it. -/
structure Uploaded (requestId : RequestId) (frame : Wire.Frame) : Prop where
  admissible : Admissible defaultLimits frame.toFrame frame.payload
  service : frame.service = servicePlatformAttestation
  id : frame.requestId = requestId
  type : frame.type = messageData ∨ frame.type = messageComplete ∨ frame.type = messageCancel

def frameRecord (frame : Wire.Frame) : Octets := wireRecord frame.toFrame frame.payload

/-- The octets of some frames on the wire. -/
def wireOctets (frames : List Wire.Frame) : Octets := (frames.map frameRecord).flatten

theorem receiveUpload_uploaded {stream : Stream} {frame : Frame} {payload : Octets}
    (hvalidator : stream.validator = connectionDecoder)
    (hservice : stream.service = servicePlatformAttestation) (hid : stream.requestId = requestId)
    (h : Uploaded requestId ⟨frame, payload⟩) :
    stream.receiveUpload (wireRecord frame payload) = .ok ⟨frame, payload⟩ := by
  have hdecode : Wire.decode stream.validator (wireRecord frame payload) = .ok ⟨frame, payload⟩ := by
    rw [hvalidator]
    exact wireRecord_decode h.admissible
  have hs : frame.service = servicePlatformAttestation := h.service
  have hi : frame.requestId = requestId := h.id
  rw [Stream.receiveUpload, hdecode]
  simp only [ofWire, bind_ok]
  rw [rejectIf_bind_of_not]
  rw [hs, hi, hservice, hid]
  have htype : frame.type = messageData ∨ frame.type = messageComplete ∨ frame.type = messageCancel :=
    h.type
  rcases htype with ht | ht | ht <;> simp [ht]

theorem readSlice_wireRecord (size : ℕ) (frame : Frame) (payload rest : Octets) :
    readSlice size (wireRecord frame payload ++ rest) = some (.ok (wireRecord frame payload, rest)) := by
  rw [wireRecord, List.append_assoc, List.singleton_append]
  exact readSlice_record size (zero_notMem_stuffed frame payload) rest

/-- What is read of some frames that stop anywhere is the first of them. -/
theorem readSlice_frames {size n : ℕ} {frames : List Wire.Frame} {record rest : Octets}
    (h : readSlice size ((wireOctets frames).take n) = some (.ok (record, rest))) :
    ∃ frame frames' m, frames = frame :: frames' ∧ record = frameRecord frame
      ∧ rest = (wireOctets frames').take m := by
  -- without its end a record is not read
  have hzero : 0#8 ∈ (wireOctets frames).take n := by
    by_contra hzero
    rw [readSlice, if_neg hzero] at h
    split_ifs at h
    all_goals simp at h
  cases frames with
  | nil => simp [wireOctets] at hzero
  | cons frame frames =>
    have hocts : wireOctets (frame :: frames) = stuffed frame.toFrame frame.payload
        ++ ([0#8] ++ wireOctets frames) := (List.append_assoc _ _ _)
    have hlen : (frameRecord frame).length ≤ n := by
      by_contra hcut
      rw [frameRecord, wireRecord, List.length_append, List.length_singleton] at hcut
      rw [hocts, List.take_append_of_le_length (by omega)] at hzero
      exact zero_notMem_stuffed _ _ (List.mem_of_mem_take hzero)
    have hwhole : (wireOctets (frame :: frames)).take n
        = frameRecord frame ++ (wireOctets frames).take (n - (frameRecord frame).length) := by
      rw [show wireOctets (frame :: frames) = frameRecord frame ++ wireOctets frames from rfl,
        List.take_append, List.take_of_length_le hlen]
    rw [hwhole, frameRecord, readSlice_wireRecord] at h
    cases h
    exact ⟨frame, frames, _, rfl, rfl, rfl⟩

/-! ### The frames of the client -/

def requestFrame (requestId : RequestId) (encodedRequest : Octets) : Wire.Frame :=
  ⟨uploadFrame requestId messageRequest 0#32, encodedRequest⟩

def dataFrames (requestId : RequestId) (pieces : List Octets) : List Wire.Frame :=
  pieces.mapIdx fun i piece => ⟨uploadFrame requestId messageData (BitVec.ofNat 32 i), piece⟩

def completeFrame (requestId : RequestId) (count : ℕ) : Wire.Frame :=
  ⟨uploadFrame requestId messageComplete (BitVec.ofNat 32 count), []⟩

def cancelFrame (requestId : RequestId) : Wire.Frame :=
  ⟨uploadFrame requestId messageCancel 1#32, []⟩

theorem uploadFrame_type (type : MessageType) (sequence : BitVec 32) :
    (uploadFrame requestId type sequence).type = type := rfl

theorem uploadFrame_sequence (type : MessageType) (sequence : BitVec 32) :
    (uploadFrame requestId type sequence).sequence = sequence := rfl

theorem requestFrame_admissible {encodedRequest : Octets}
    (h : encodedRequest.length ≤ controlPayloadMax) :
    Admissible defaultLimits (requestFrame requestId encodedRequest).toFrame
      (requestFrame requestId encodedRequest).payload :=
  uploadFrame_admissible _ _ rfl
    (by simpa [requestFrame, PayloadAllowed, messageRequest, messageData, messageComplete,
      messageCancel, messageAck] using h)

theorem dataFrame_uploaded {piece : Octets} (i : ℕ) (h : piece.length ≤ dataPayloadMax) :
    Uploaded requestId ⟨uploadFrame requestId messageData (BitVec.ofNat 32 i), piece⟩ :=
  ⟨uploadFrame_admissible _ _ rfl (by simpa [PayloadAllowed] using h), rfl, rfl, .inl rfl⟩

theorem completeFrame_uploaded (count : ℕ) : Uploaded requestId (completeFrame requestId count) :=
  ⟨uploadFrame_admissible _ _ rfl
      (by simp [completeFrame, PayloadAllowed, messageComplete, messageData, messageAck]),
    rfl, rfl, .inr (.inl rfl)⟩

theorem cancelFrame_uploaded : Uploaded requestId (cancelFrame requestId) :=
  ⟨cancel_admissible requestId, rfl, rfl, .inr (.inr rfl)⟩

/-! ### The loop -/

section Loop

variable {stream : Stream} (hvalidator : stream.validator = connectionDecoder)
  (hservice : stream.service = servicePlatformAttestation) (hid : stream.requestId = requestId)

include hvalidator hservice hid

/-- Nothing is returned without a COMPLETE, and what is returned is what came before it. -/
theorem receiveCiphertext_ok {rounds n : ℕ} {frames : List Wire.Frame} {ciphertext returned : Octets}
    {sequence : BitVec 32} (hframes : ∀ f ∈ frames, Uploaded requestId f)
    (h : receiveCiphertext stream rounds ciphertext sequence ((wireOctets frames).take n)
      = some (.ok returned)) :
    ∃ before complete after, frames = before ++ complete :: after
      ∧ complete.type = messageComplete ∧ (∀ f ∈ before, f.type = messageData)
      ∧ returned = ciphertext ++ (before.map (·.payload)).flatten := by
  induction rounds generalizing frames n ciphertext sequence with
  | zero => exact absurd h (by simp [receiveCiphertext])
  | succ rounds ih =>
    rw [receiveCiphertext] at h
    split at h
    case h_2 => simp at h
    case h_1 record rest heq =>
      obtain ⟨frame, frames, m, rfl, rfl, rfl⟩ := readSlice_frames heq
      rw [frameRecord, receiveUpload_uploaded hvalidator hservice hid (hframes frame List.mem_cons_self)]
        at h
      simp only at h
      split_ifs at h with hcancel hsequence hcomplete hempty hlimit hmax
      · cases h
      · cases h
      · cases h
      · cases h
        exact ⟨[], frame, frames, rfl, hcomplete, by simp, by simp⟩
      · cases h
      · cases h
      · obtain ⟨before, complete, after, rfl, htype, hdata, rfl⟩ :=
          ih (fun f hf => hframes f (List.mem_cons_of_mem _ hf)) h
        have hframe : frame.type = messageData := Classical.not_not.mp fun hne => hlimit (.inl hne)
        exact ⟨frame :: before, complete, after, rfl, htype, List.forall_mem_cons.mpr ⟨hframe, hdata⟩,
          by simp⟩

/-- The records of a whole upload give the ciphertext, whatever is behind them. -/
theorem receiveCiphertext_all {after : Octets} (pieces : List Octets) :
    ∀ {rounds k : ℕ} {ciphertext : Octets}, pieces.length < rounds →
      (∀ piece ∈ pieces, piece ≠ [] ∧ piece.length ≤ dataPayloadMax) →
      k ≤ ciphertext.length → ciphertext ++ pieces.flatten ≠ [] →
      (ciphertext ++ pieces.flatten).length ≤ maxEncryptedEvidenceSize →
      receiveCiphertext stream rounds ciphertext (BitVec.ofNat 32 k)
          ((pieces.mapIdx fun i piece => dataRecord requestId (i + k) piece).flatten
            ++ completeRecord requestId (pieces.length + k) ++ after)
        = some (.ok (ciphertext ++ pieces.flatten)) := by
  induction pieces with
  | nil =>
    intro rounds k ciphertext hrounds _ _ hne _
    obtain ⟨rounds, rfl⟩ : ∃ n, rounds = n + 1 := ⟨rounds - 1, by simp at hrounds; omega⟩
    simp only [List.mapIdx_nil, List.flatten_nil, List.nil_append, List.length_nil, Nat.zero_add,
      List.append_nil] at hne ⊢
    rw [completeRecord, receiveCiphertext, readSlice_wireRecord]
    simp only [receiveUpload_uploaded hvalidator hservice hid (completeFrame_uploaded k)]
    rw [uploadFrame_type, uploadFrame_sequence, if_neg (by decide), if_neg (by simp), if_pos rfl,
      if_neg (by simpa using hne)]
  | cons piece pieces ih =>
    intro rounds k ciphertext hrounds hpieces hk hne hmax
    obtain ⟨rounds, rfl⟩ : ∃ n, rounds = n + 1 := ⟨rounds - 1, by simp at hrounds; omega⟩
    obtain ⟨hpiece, hsize⟩ := hpieces piece List.mem_cons_self
    have hpos : 0 < piece.length := List.length_pos_iff.mpr hpiece
    have hlen : ciphertext.length + (piece.length + pieces.flatten.length)
        ≤ maxEncryptedEvidenceSize := by simpa using hmax
    -- the number of a record stays below the number of octets in front of it
    have hseq : BitVec.ofNat 32 k ≠ uint32Max := by
      intro h
      have hbound : maxEncryptedEvidenceSize = 4268800 := by decide
      have hlast : uint32Max.toNat = 2 ^ 32 - 1 := by decide
      have hnat := congrArg BitVec.toNat h
      rw [BitVec.toNat_ofNat, Nat.mod_eq_of_lt (by omega)] at hnat
      omega
    have hroom : ¬ (messageData ≠ messageData ∨ piece.length = 0
        ∨ maxEncryptedEvidenceSize - ciphertext.length < piece.length) := by
      rintro (h | h | h)
      · exact h rfl
      · omega
      · omega
    have hnext : BitVec.ofNat 32 k + 1#32 = BitVec.ofNat 32 (k + 1) := (BitVec.ofNat_add _ _).symm
    simp only [List.mapIdx_cons, List.flatten_cons, List.length_cons, List.append_assoc, Nat.zero_add,
      Nat.add_assoc, Nat.add_comm 1 k]
    rw [dataRecord, receiveCiphertext, readSlice_wireRecord]
    simp only [receiveUpload_uploaded hvalidator hservice hid (dataFrame_uploaded k hsize)]
    rw [uploadFrame_type, uploadFrame_sequence, if_neg (by decide), if_neg (by simp),
      if_neg (by decide), if_neg hroom, if_neg hseq, hnext, ← List.append_assoc,
      ← List.append_assoc ciphertext]
    refine ih (by simpa using hrounds) (fun p hp => hpieces p (List.mem_cons_of_mem _ hp)) ?_ ?_ ?_
    · rw [List.length_append]
      omega
    · simp [hpiece]
    · simpa [Nat.add_assoc] using hlen

end Loop

end Receive

/-! ### A connection -/

section Connection

variable {requestId : RequestId} {first : Wire.Frame}
  (hfirst : Admissible defaultLimits first.toFrame first.payload)

include hfirst

/-- What is behind the first record is the upload. -/
theorem uploadReceived_cons (rounds : ℕ) (incoming : Octets) :
    uploadReceived rounds (frameRecord first ++ incoming)
      = receiveCiphertext (newStream connectionDecoder first.toFrame) rounds [] 0#32 incoming := by
  rw [uploadReceived, frameRecord, readSlice_wireRecord]
  simp only
  rw [connectionDecoder, wireRecord_decode hfirst]

theorem uploadReceived_ok (hservice : first.service = servicePlatformAttestation)
    (hid : first.requestId = requestId) {frames : List Wire.Frame}
    (hframes : ∀ f ∈ frames, Uploaded requestId f) {rounds n : ℕ} {returned : Octets}
    (h : uploadReceived rounds ((wireOctets (first :: frames)).take n) = some (.ok returned)) :
    ∃ before complete after, frames = before ++ complete :: after
      ∧ complete.type = messageComplete ∧ (∀ f ∈ before, f.type = messageData)
      ∧ returned = (before.map (·.payload)).flatten := by
  rw [uploadReceived] at h
  split at h
  case h_2 => simp at h
  case h_1 record rest heq =>
    obtain ⟨frame, frames', m, hsplit, rfl, rfl⟩ := readSlice_frames heq
    obtain ⟨rfl, rfl⟩ := List.cons.inj hsplit
    rw [frameRecord, connectionDecoder, wireRecord_decode hfirst] at h
    exact receiveCiphertext_ok rfl hservice hid hframes h

end Connection

/-! ### What the client leaves on the wire -/

section OnWire

variable {requestId : RequestId} {encodedRequest : Octets} {pieces : List Octets}

theorem dataFrames_records :
    (dataFrames requestId pieces).map frameRecord = pieces.mapIdx (dataRecord requestId) := by
  refine List.ext_getElem? fun i => ?_
  simp only [dataFrames, List.getElem?_map, List.getElem?_mapIdx, Option.map_map]
  rfl

theorem dataFrames_payloads : (dataFrames requestId pieces).map (·.payload) = pieces := by
  refine List.ext_getElem? fun i => ?_
  simp only [dataFrames, List.getElem?_map, List.getElem?_mapIdx, Option.map_map]
  exact Option.map_id'

theorem uploadRecordsOf_eq : uploadRecordsOf requestId encodedRequest pieces
    = (requestFrame requestId encodedRequest :: dataFrames requestId pieces
        ++ [completeFrame requestId pieces.length]).map frameRecord := by
  rw [List.cons_append, List.map_cons, List.map_append, dataFrames_records]
  rfl

theorem dataFrames_type : ∀ f ∈ dataFrames requestId pieces, f.type = messageData := by
  intro f hf
  obtain ⟨i, hi, rfl⟩ := List.mem_mapIdx.mp hf
  rfl

theorem dataFrames_uploaded (hpieces : ∀ piece ∈ pieces, piece.length ≤ dataPayloadMax) :
    ∀ f ∈ dataFrames requestId pieces, Uploaded requestId f := by
  intro f hf
  obtain ⟨i, hi, rfl⟩ := List.mem_mapIdx.mp hf
  exact dataFrame_uploaded i (hpieces _ (List.getElem_mem hi))

/-- What the gateway gets of an upload: nothing, or frames from its front, with a CANCEL behind
them when it was given up. -/
def OnWire (requestId : RequestId) (encodedRequest : Octets) (pieces : List Octets)
    (records : List Octets) : Prop :=
  records = [] ∨ encodedRequest.length ≤ controlPayloadMax ∧ ∃ front rest tail,
    requestFrame requestId encodedRequest :: dataFrames requestId pieces
        ++ [completeFrame requestId pieces.length] = front ++ rest
      ∧ (tail = [] ∨ tail = [cancelFrame requestId])
      ∧ records = (front ++ tail).map frameRecord

variable {log : List TransportCall}

theorem onWire_of_aborted (h : Aborted requestId encodedRequest pieces log) :
    OnWire requestId encodedRequest pieces (delivered log) := by
  obtain ⟨hrequest, before, status, status', status'', rfl, -, rest, hfront⟩ := h
  rw [uploadRecordsOf_eq] at hfront
  obtain ⟨front, rest, hsplit, hdelivered, -⟩ := List.map_eq_append_iff.mp hfront.symm
  rw [delivered_append, ← hdelivered]
  -- the CANCEL itself may or may not get through
  by_cases hstatus : status = .ok
  · subst hstatus
    exact .inr ⟨hrequest, front, rest, [cancelFrame requestId], hsplit, .inr rfl, by
      rw [List.map_append]
      rfl⟩
  · have hnone : delivered [.send (cancelRecord requestId) status, .cancel requestId status',
        .closeTransport status''] = [] := by
      cases status
      case ok => exact absurd rfl hstatus
      all_goals rfl
    exact .inr ⟨hrequest, front, rest, [], hsplit, .inl rfl, by rw [hnone]; simp⟩

theorem onWire_of_finished (h : Finished requestId encodedRequest pieces log) :
    OnWire requestId encodedRequest pieces (delivered log) := by
  obtain ⟨hrequest, before, status, rfl, -, hall⟩ := h
  rw [delivered_append, hall, uploadRecordsOf_eq]
  exact .inr ⟨hrequest, _, [], [], (List.append_nil _).symm, .inl rfl, by simp [delivered]⟩

theorem onWire_of_givenUp (h : GivenUp requestId encodedRequest pieces log) :
    OnWire requestId encodedRequest pieces (delivered log) := by
  rcases h with hunsent | haborted
  · exact .inl hunsent.delivered
  · exact onWire_of_aborted haborted

/-- What is behind the REQUEST are frames of the upload; only a whole upload has a COMPLETE among
them. -/
theorem OnWire.cases {records : List Octets} (h : OnWire requestId encodedRequest pieces records)
    (hpieces : ∀ piece ∈ pieces, piece.length ≤ dataPayloadMax) :
    records = [] ∨ records = [cancelFrame requestId].map frameRecord ∨
      encodedRequest.length ≤ controlPayloadMax ∧ ∃ behind,
        records = (requestFrame requestId encodedRequest :: behind).map frameRecord
          ∧ (∀ f ∈ behind, Uploaded requestId f)
          ∧ ((∀ f ∈ behind, f.type ≠ messageComplete) ∨ ∃ tail, behind
            = dataFrames requestId pieces ++ completeFrame requestId pieces.length :: tail) := by
  rcases h with rfl | ⟨hrequest, front, rest, tail, hsplit, htail, rfl⟩
  · exact .inl rfl
  have hcancel : ∀ f ∈ tail, f = cancelFrame requestId := by
    rcases htail with rfl | rfl <;> simp
  cases front with
  | nil =>
    rcases htail with rfl | rfl
    · exact .inl rfl
    · exact .inr (.inl rfl)
  | cons first front =>
    rw [List.cons_append, List.cons_append, List.cons.injEq] at hsplit
    obtain ⟨rfl, hfront⟩ := hsplit
    refine .inr (.inr ⟨hrequest, front ++ tail, rfl, ?_, ?_⟩)
    · refine List.forall_mem_append.mpr ⟨fun f hf => ?_, fun f hf => ?_⟩
      · have hmem : f ∈ dataFrames requestId pieces ++ [completeFrame requestId pieces.length] :=
          hfront ▸ List.mem_append_left _ hf
        rcases List.mem_append.mp hmem with hmem | hmem
        · exact dataFrames_uploaded hpieces f hmem
        · exact List.mem_singleton.mp hmem ▸ completeFrame_uploaded _
      · exact hcancel f hf ▸ cancelFrame_uploaded
    · rcases List.eq_nil_or_concat rest with rfl | ⟨rest, last, rfl⟩
      · rw [List.append_nil] at hfront
        exact .inr ⟨tail, by rw [← hfront, List.append_assoc, List.singleton_append]⟩
      · -- the COMPLETE is the last frame
        rw [List.concat_eq_append, ← List.append_assoc] at hfront
        refine .inl (List.forall_mem_append.mpr ⟨fun f hf => ?_, fun f hf => ?_⟩)
        · have hmem : f ∈ dataFrames requestId pieces :=
            (List.append_inj' hfront rfl).1 ▸ List.mem_append_left _ hf
          rw [dataFrames_type f hmem]
          decide
        · rw [hcancel f hf]
          exact show messageCancel ≠ messageComplete by decide

/-- The frames in front of the first COMPLETE. -/
theorem before_complete {before before' after after' : List Wire.Frame} {complete complete' : Wire.Frame}
    (heq : before ++ complete :: after = before' ++ complete' :: after')
    (hbefore : ∀ f ∈ before, f.type = messageData) (hbefore' : ∀ f ∈ before', f.type = messageData)
    (hcomplete : complete.type = messageComplete) (hcomplete' : complete'.type = messageComplete) :
    before = before' := by
  have htake {l r : List Wire.Frame} {c : Wire.Frame} (hl : ∀ f ∈ l, f.type = messageData)
      (hc : c.type = messageComplete) :
      (l ++ c :: r).takeWhile (fun f => decide (f.type = messageData)) = l := by
    have hne : ¬ c.type = messageData := by
      rw [hc]
      decide
    rw [List.takeWhile_append_of_pos (by simpa using hl), List.takeWhile_cons_of_neg (by simpa using hne),
      List.append_nil]
  rw [← htake (r := after) hbefore hcomplete, heq, htake hbefore' hcomplete']

/-- A gateway that returns something has read a COMPLETE, and returns everything. -/
theorem uploadReceived_intact {records : List Octets}
    (hpieces : ∀ piece ∈ pieces, piece.length ≤ dataPayloadMax)
    (h : OnWire requestId encodedRequest pieces records) {rounds n : ℕ} {returned : Octets}
    (hreturned : uploadReceived rounds (records.flatten.take n) = some (.ok returned)) :
    completeRecord requestId pieces.length ∈ records ∧ returned = pieces.flatten := by
  rcases h.cases hpieces with rfl | rfl | ⟨hrequest, behind, rfl, hbehind, hcomplete⟩
  · rw [List.flatten_nil, List.take_nil, uploadReceived, readSlice] at hreturned
    simp only [List.not_mem_nil, if_false] at hreturned
    split_ifs at hreturned
  · -- only the CANCEL got through
    obtain ⟨before, complete, after, hnil, -⟩ :=
      uploadReceived_ok cancelFrame_uploaded.admissible rfl rfl (by simp) hreturned
    simp at hnil
  · obtain ⟨before, complete, after, rfl, htype, hdata, rfl⟩ :=
      uploadReceived_ok (requestFrame_admissible hrequest) rfl rfl hbehind hreturned
    rcases hcomplete with hnone | ⟨tail, hwhole⟩
    · exact absurd htype (hnone complete (by simp))
    · obtain rfl := before_complete hwhole hdata dataFrames_type htype rfl
      rw [dataFrames_payloads, hwhole]
      exact ⟨List.mem_map.mpr ⟨completeFrame requestId pieces.length, by simp, rfl⟩, rfl⟩

/-- A gateway that can read it all returns everything. -/
theorem uploadReceived_whole {records : List Octets} (hne : pieces.flatten ≠ [])
    (hpieces : ∀ piece ∈ pieces, piece ≠ [] ∧ piece.length ≤ dataPayloadMax)
    (hmax : pieces.flatten.length ≤ maxEncryptedEvidenceSize)
    (h : OnWire requestId encodedRequest pieces records)
    (hcomplete : completeRecord requestId pieces.length ∈ records) {rounds : ℕ}
    (hrounds : pieces.length < rounds) :
    uploadReceived rounds records.flatten = some (.ok pieces.flatten) := by
  -- the record is the COMPLETE, so its frame is one
  have htype {f : Wire.Frame} (hf : Admissible defaultLimits f.toFrame f.payload)
      (hrecord : frameRecord f = completeRecord requestId pieces.length) : f.type = messageComplete := by
    have hcomplete : Uploaded requestId (completeFrame requestId pieces.length) := completeFrame_uploaded _
    by_contra hother
    exact wireRecord_ne hf hcomplete.admissible hother hrecord
  rcases h.cases (fun p hp => (hpieces p hp).2) with rfl | rfl | ⟨hrequest, behind, rfl, hbehind, hwhole⟩
  · simp at hcomplete
  · obtain ⟨f, hf, hrecord⟩ := List.mem_map.mp hcomplete
    obtain rfl := List.mem_singleton.mp hf
    exact absurd (htype cancelFrame_uploaded.admissible hrecord)
      (show messageCancel ≠ messageComplete by decide)
  · obtain ⟨f, hf, hrecord⟩ := List.mem_map.mp hcomplete
    obtain ⟨tail, rfl⟩ : ∃ tail, behind
        = dataFrames requestId pieces ++ completeFrame requestId pieces.length :: tail := by
      refine hwhole.resolve_left fun hnone => ?_
      rcases List.mem_cons.mp hf with rfl | hf
      · exact absurd (htype (requestFrame_admissible hrequest) hrecord)
          (show messageRequest ≠ messageComplete by decide)
      · exact hnone f hf (htype (hbehind f hf).admissible hrecord)
    rw [List.map_cons, List.flatten_cons, uploadReceived_cons (requestFrame_admissible hrequest),
      List.map_append, dataFrames_records, List.flatten_append, List.map_cons, List.flatten_cons,
      ← List.append_assoc]
    exact receiveCiphertext_all rfl rfl rfl pieces hrounds hpieces (Nat.zero_le _) hne hmax

end OnWire

/-! ### The whole upload -/

/-- A way to cut a ciphertext into the payloads of DATA records. -/
structure IsCut (ciphertext : Octets) (pieces : List Octets) : Prop where
  ne_nil : pieces ≠ []
  flatten : pieces.flatten = ciphertext
  size : ∀ piece ∈ pieces, piece ≠ [] ∧ piece.length ≤ dataPayloadMax

theorem submitCut_succ (rounds : ℕ) {remaining : Octets} (h : remaining ≠ []) :
    submitCut (rounds + 1) remaining
      = remaining.take dataPayloadMax :: submitCut rounds (remaining.drop dataPayloadMax) := by
  cases remaining with
  | nil => exact absurd rfl h
  | cons octet remaining => rfl

theorem submitCut_flatten (rounds : ℕ) {remaining : Octets} (h : remaining.length ≤ rounds) :
    (submitCut rounds remaining).flatten = remaining := by
  induction rounds generalizing remaining with
  | zero => simpa [submitCut] using h
  | succ rounds ih =>
    cases remaining with
    | nil => rfl
    | cons octet remaining =>
      have hrest : ((octet :: remaining).drop dataPayloadMax).length ≤ rounds := by
        have hmax : dataPayloadMax = 16384 := rfl
        rw [List.length_drop, List.length_cons, hmax]
        rw [List.length_cons] at h
        omega
      rw [submitCut_succ rounds (List.cons_ne_nil _ _), List.flatten_cons, ih hrest,
        List.take_append_drop]

theorem submitCut_size (rounds : ℕ) (remaining : Octets) :
    ∀ piece ∈ submitCut rounds remaining, piece ≠ [] ∧ piece.length ≤ dataPayloadMax := by
  induction rounds generalizing remaining with
  | zero => simp [submitCut]
  | succ rounds ih =>
    cases remaining with
    | nil => simp [submitCut]
    | cons octet remaining =>
      intro piece hpiece
      rw [submitCut_succ rounds (List.cons_ne_nil _ _)] at hpiece
      rcases List.mem_cons.mp hpiece with rfl | hpiece
      · exact ⟨by simp [dataPayloadMax], List.length_take_le _ _⟩
      · exact ih _ piece hpiece

variable {ciphertext : Octets}

/-- The submitter's own cut. -/
theorem submitPieces_isCut (h : ciphertext ≠ []) :
    IsCut ciphertext (submitPieces ciphertext) := by
  have hflatten : (submitPieces ciphertext).flatten = ciphertext :=
    submitCut_flatten _ (Nat.le_refl _)
  refine ⟨?_, hflatten, submitCut_size _ _⟩
  intro hnil
  rw [hnil] at hflatten
  exact h hflatten.symm

theorem IsCut.flatten_ne {pieces : List Octets} (h : IsCut ciphertext pieces) :
    pieces.flatten ≠ [] := by
  intro hnil
  obtain ⟨piece, hpiece⟩ := List.exists_mem_of_ne_nil pieces h.ne_nil
  exact (h.size piece hpiece).1 (List.flatten_eq_nil_iff.mp hnil piece hpiece)

/-- Between two sessions a broker is idle, with room for a record without payload. -/
theorem idle_of_inactive {σ δ : Type} (ops : SessionOps σ) (q : Qcbor δ) {fuel : ℕ}
    {storage : BrokerStorage} {receiveData rawScratch decoded : Octets} {b₀ b : Broker} {w₀ : σ}
    {w : σ × List TransportCall} {calls : List BrokerCall}
    (hinit : brokerInitOver storage receiveData rawScratch decoded = .ok b₀)
    (hcalls : brokerCalls ops.traced q fuel calls b₀ (w₀, []) = some (b, w))
    (hinactive : b.active = false) : Idle b.view := by
  have hfresh := brokerInitOver_fresh hinit
  have hsettled : Settled b₀ w₀ b w := Settled.calls ops q hfresh (.untouched rfl rfl) hcalls
  obtain ⟨b₁, hinit₁, hb₀⟩ := bind_eq_ok.mp hinit
  obtain ⟨hvalid, hb₁⟩ := rejectIf_bind_eq_ok.mp hinit₁
  obtain rfl := Except.ok.inj hb₁
  obtain rfl := Except.ok.inj hb₀
  have hroom : 42 ≤ storage.encoded.length ∧ 40 ≤ storage.rawScratchCap := by
    simp only [Bool.not_eq_false, storageIsValid, Bool.and_eq_true,
      decide_eq_true_eq] at hvalid
    exact ⟨hvalid.1.1.1, hvalid.1.1.2⟩
  cases hsettled with
  | untouched hb hw =>
    subst hb
    exact ⟨rfl, rfl, rfl, hroom⟩
  | cleared hclosed hb =>
    obtain ⟨initialized, limits, deadlineMs, decoded', rfl⟩ := hb
    exact ⟨rfl, rfl, rfl, by simpa [Broker.view, Broker.cleared, freshBroker] using hroom⟩
  | live hb hactive => cases hactive.symm.trans hinactive

/-- **The upload is intact or not there.**  A broker between two sessions uploads a ciphertext,
cut in any way; the transport, the clock and the gates answer anything.

* With COMPLETE sent, a gateway that reads everything returns the ciphertext, if it fits.
* A gateway that returns something, wherever it stops reading, has seen a COMPLETE, and returns
  the ciphertext.
* An upload that was not finished has failed; if its REQUEST was attempted, its last transport
  calls are one CANCEL, one cancellation and one close, and there were none before.
* A finished upload ends with a close, and nothing was cancelled; one that succeeds is finished.
* The submitter's own cut is one of those. -/
theorem upload_intact {σ δ : Type} (ops : SessionOps σ) (q : Qcbor δ) (run : RunOps σ)
    {fuel₀ fuel : ℕ} {storage : BrokerStorage} {receiveData rawScratch decoded : Octets}
    {b₀ b b' : Broker} {w₀ s s' : σ} {calls : List BrokerCall} {log₀ log : List TransportCall}
    {requestId : RequestId} {encodedRequest : Octets} {pieces : List Octets} {timeoutMs : BitVec 32}
    {status : Status} {upload : AttestationUpload}
    (hinit : brokerInitOver storage receiveData rawScratch decoded = .ok b₀)
    (hcalls : brokerCalls ops.traced q fuel₀ calls b₀ (w₀, []) = some (b, s, log₀))
    (hinactive : b.active = false) (hcut : IsCut ciphertext pieces)
    (hrun : uploadRun ops.traced q run.traced fuel pieces
      (newUpload requestId encodedRequest timeoutMs) b (s, []) = some (status, upload, b', s', log)) :
    (completeRecord requestId pieces.length ∈ delivered log →
        ciphertext.length ≤ maxEncryptedEvidenceSize → ∀ rounds, pieces.length < rounds →
        uploadReceived rounds (delivered log).flatten = some (.ok ciphertext)) ∧
      (∀ rounds n returned,
        uploadReceived rounds ((delivered log).flatten.take n) = some (.ok returned) →
        completeRecord requestId pieces.length ∈ delivered log ∧ returned = ciphertext) ∧
      (upload.finished = false → status ≠ .ok ∧
        ((∃ st, .send (requestRecord requestId encodedRequest) st ∈ log) →
          ∃ before st st' st'', log = before ++ [.send (cancelRecord requestId) st,
            .cancel requestId st', .closeTransport st''] ∧ ∀ c ∈ before, c.Plain requestId)) ∧
      (upload.finished = true → (∃ before st, log = before ++ [.closeTransport st]) ∧
        ∀ c ∈ log, c.Plain requestId) ∧
      (status = .ok → upload.finished = true) ∧ IsCut ciphertext (submitPieces ciphertext) := by
  have hidle := idle_of_inactive ops q hinit hcalls hinactive
  have hended := uploadRun_ended hidle hcut.ne_nil (fun piece h => (hcut.size piece h).1) hrun
  have hsize : ∀ piece ∈ pieces, piece.length ≤ dataPayloadMax := fun piece h => (hcut.size piece h).2
  have hwire : OnWire requestId encodedRequest pieces (delivered log) := by
    rcases hended with ⟨-, -, hgiven⟩ | ⟨-, hfinished⟩
    · exact onWire_of_givenUp hgiven
    · exact onWire_of_finished hfinished
  refine ⟨?_, ?_, ?_, ?_, ?_, submitPieces_isCut (hcut.flatten ▸ hcut.flatten_ne)⟩
  · intro hcomplete hmax rounds hrounds
    rw [← hcut.flatten] at hmax ⊢
    exact uploadReceived_whole hcut.flatten_ne hcut.size hmax hwire hcomplete hrounds
  · intro rounds n returned hreturned
    obtain ⟨hcomplete, hall⟩ := uploadReceived_intact hsize hwire hreturned
    exact ⟨hcomplete, hall.trans hcut.flatten⟩
  · intro hunfinished
    rcases hended with ⟨hstatus, -, hgiven⟩ | ⟨hfinished, -⟩
    · refine ⟨hstatus, fun ⟨st, hrequest⟩ => ?_⟩
      rcases hgiven with hunsent | ⟨-, before, st, st', st'', hlog, hplain, -⟩
      · rcases hunsent _ hrequest with ⟨_, h⟩ | ⟨_, h⟩ <;> simp at h
      · exact ⟨before, st, st', st'', hlog, hplain⟩
    · cases hfinished.symm.trans hunfinished
  · intro hfinished
    rcases hended with ⟨-, hunfinished, -⟩ | ⟨-, -, before, st, rfl, hplain, -⟩
    · cases hfinished.symm.trans hunfinished
    · refine ⟨⟨before, st, rfl⟩, fun c hc => ?_⟩
      rcases List.mem_append.mp hc with hc | hc
      · exact hplain c hc
      · obtain rfl := List.mem_singleton.mp hc
        exact ⟨id, id⟩
  · intro hok
    rcases hended with ⟨hstatus, -⟩ | ⟨hfinished, -⟩
    · exact absurd hok hstatus
    · exact hfinished

/-- The transport answers an upload, and its close ends as given. -/
def sampleUploadOps (closing : Status) : SessionOps Playback where
  toBrokerOps := playbackOps (fun _ => 0#64) closing
  random w := (.ok, sampleRequestId, w)
  cancel _ w := (.ok, w)

def sampleRunOps : RunOps Playback where
  gate w := (.ok, 1000#32, w)
  verify _ w := (.ok, w)

/-- The answer of the gateway. -/
def sampleAnswer : Octets :=
  wireRecord ⟨servicePlatformAttestation, messageResponse, 0#8, sampleRequestId, 0#32⟩ [9#8]

/-- The upload of two octets, in two records. -/
def sampleUpload (closing : Status) :
    Option (Status × AttestationUpload × Broker × Playback × List TransportCall) :=
  uploadRun (sampleUploadOps closing).traced sampleQcbor sampleRunOps.traced 10 [[1#8], [2#8]]
    (newUpload sampleRequestId [3#8] 1000#32) (sampleBroker 0#8) (⟨[some sampleAnswer], [], 0⟩, [])

theorem upload_intact_sample : ∃ upload b' s' log, sampleUpload .ok = some (.ok, upload, b', s', log) ∧
    uploadReceived 3 (delivered log).flatten = some (.ok [1#8, 2#8]) ∧
    ∀ c ∈ log, c.Plain sampleRequestId := by
  have hall : (sampleUpload .ok).map (fun r => (r.1, decide
      (completeRecord sampleRequestId 2 ∈ delivered r.2.2.2.2))) = some (.ok, true) := by decide +kernel
  obtain ⟨⟨status, upload, b', s', log⟩, hrun, hstatus⟩ := Option.map_eq_some_iff.mp hall
  simp only [Prod.mk.injEq, decide_eq_true_eq] at hstatus
  obtain ⟨rfl, hcomplete⟩ := hstatus
  have hcalls : brokerCalls (sampleUploadOps .ok).traced sampleQcbor 0 [] (sampleBroker 0#8)
      (⟨[some sampleAnswer], [], 0⟩, []) = some (sampleBroker 0#8, ⟨[some sampleAnswer], [], 0⟩, []) := rfl
  have hcut : IsCut [1#8, 2#8] [[1#8], [2#8]] := ⟨by decide, rfl, by decide⟩
  obtain ⟨hwhole, -, -, hplain, hfinished, -⟩ := upload_intact (sampleUploadOps .ok) sampleQcbor
    sampleRunOps (sampleBroker_init 0#8) hcalls rfl hcut hrun
  exact ⟨upload, b', s', log, hrun, hwhole hcomplete (by decide) 3 (by decide),
    (hplain (hfinished rfl)).2⟩

/-- A session that fails at its very end cancels nothing: everything was sent and answered, the
close of the transport fails, and so does the upload. -/
theorem upload_close_fails : ∃ upload b' s' log,
    sampleUpload .errTransport = some (.errTransport, upload, b', s', log) ∧
      .send (requestRecord sampleRequestId [3#8]) .ok ∈ log ∧ ∀ c ∈ log, c.Plain sampleRequestId := by
  have hall : (sampleUpload .errTransport).map (fun r => (r.1, decide
      (.send (requestRecord sampleRequestId [3#8]) .ok ∈ r.2.2.2.2 ∧
        ∀ c ∈ r.2.2.2.2, c.Plain sampleRequestId))) = some (.errTransport, true) := by decide +kernel
  obtain ⟨⟨status, upload, b', s', log⟩, hrun, hstatus⟩ := Option.map_eq_some_iff.mp hall
  simp only [Prod.mk.injEq, decide_eq_true_eq] at hstatus
  obtain ⟨rfl, hlog⟩ := hstatus
  exact ⟨upload, b', s', log, hrun, hlog⟩

end Pbns.Attestation
