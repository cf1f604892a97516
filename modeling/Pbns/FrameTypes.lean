/-
The vocabulary of the frame protocol: statuses, frames and limits.

These are the types of `include/pbns/status.h`, `include/pbns/frame.h` and of the
Go package `wire`, which names the same fields.  Service and message-type
identifiers are kept as the octet that travels on the wire, since both programs
hold and range-check arbitrary values of it; the names of the enumerators are
constants.
-/
import Pbns.Bytes
import Pbns.Guard

namespace Pbns

open Octets

/-- `pbns_status`. -/
inductive Status
  | ok
  | errArgument
  | errLimit
  | errFormat
  | errCrc
  | errVersion
  | errService
  | errMessageType
  | errSequence
  | errState
  | errWouldBlock
  | errTimeout
  | errTransport
  | errCrypto
  | errAuthentication
  | errReplay
  | errUnsupported
  | errUnimplemented
  | errEntropy
  | errAmbiguous
  | errResource
  | errIo
  | errBusy
  deriving DecidableEq, Repr

/-- `if (status != PBNS_OK) return status;` -/
def Status.check : Status → Except Status Unit
  | .ok => .ok ()
  | status => .error status

@[simp] theorem Status.check_bind_eq_ok {α : Type} {status : Status}
    {rest : Unit → Except Status α} {a : α} :
    (status.check >>= rest) = .ok a ↔ status = .ok ∧ rest () = .ok a := by
  cases status <;> simp [check]

theorem Status.check_ne_error_ok (status : Status) : status.check ≠ .error .ok := by
  cases status <;> simp [check]

/-- `SIZE_MAX` on the 64-bit targets. -/
def sizeMax : ℕ := 2 ^ 64 - 1

/-! ### Constants of frame format v1 -/

def protocolVersion : Octet := 1#8
def headerSize : ℕ := 36
def trailerSize : ℕ := 4
def controlPayloadMax : ℕ := 65536
def dataPayloadMax : ℕ := 16384
def rawMax : ℕ := 65576
def cobsMax : ℕ := 65835
def wireMax : ℕ := 65836
def ackPayloadSize : ℕ := 8

/-- The ASCII letters `PBNS`. -/
def frameMagic : Octets := [0x50#8, 0x42#8, 0x4e#8, 0x53#8]

abbrev ServiceId := Octet

def serviceInvalid : ServiceId := 0#8
def serviceTrustedTime : ServiceId := 1#8
def serviceRecoveryArtifact : ServiceId := 2#8
def servicePlatformAttestation : ServiceId := 3#8
def serviceEnrollment : ServiceId := 4#8

abbrev MessageType := Octet

def messageRequest : MessageType := 1#8
def messageResponse : MessageType := 2#8
def messageData : MessageType := 3#8
def messageAck : MessageType := 4#8
def messageError : MessageType := 5#8
def messageCancel : MessageType := 6#8
def messageComplete : MessageType := 7#8

def serviceIsValid (service : ServiceId) : Bool :=
  serviceTrustedTime ≤ service && service ≤ serviceEnrollment

def messageTypeIsValid (type : MessageType) : Bool :=
  messageRequest ≤ type && type ≤ messageComplete

theorem messageType_cases {type : MessageType} (h : messageTypeIsValid type = true) :
    type = messageRequest ∨ type = messageResponse ∨ type = messageData ∨ type = messageAck ∨
      type = messageError ∨ type = messageCancel ∨ type = messageComplete := by
  revert type
  decide

/-! ### Frames -/

abbrev RequestId := OctetArray 16

/-- `pbns_frame`; the payload travels beside it. -/
structure Frame where
  service : ServiceId
  type : MessageType
  flags : Octet
  requestId : RequestId
  sequence : BitVec 32
  deriving DecidableEq

/-- `pbns_frame_limits`. -/
structure FrameLimits where
  controlPayloadMax : ℕ
  dataPayloadMax : ℕ
  encodedRecordMax : ℕ
  deriving DecidableEq

/-- The limits of the protocol itself. -/
def defaultLimits : FrameLimits := ⟨controlPayloadMax, dataPayloadMax, wireMax⟩

def limitsAreValid (limits : FrameLimits) : Bool :=
  limits.controlPayloadMax ≤ controlPayloadMax && limits.dataPayloadMax ≤ dataPayloadMax &&
    limits.encodedRecordMax ≤ wireMax

theorem limitsAreValid_iff {limits : FrameLimits} : limitsAreValid limits = true ↔
    limits.controlPayloadMax ≤ 65536 ∧ limits.dataPayloadMax ≤ 16384 ∧
      limits.encodedRecordMax ≤ 65836 := by
  simp only [limitsAreValid, Bool.and_eq_true, decide_eq_true_eq, and_assoc]
  rfl

/-! ### The raw record

Both encoders lay the fields out in the same order; only their check-value
routines differ, so the layout takes the routine as a parameter. -/

/-- The 32 octets the header check value covers. -/
def headerFields (frame : Frame) (payloadLen : ℕ) : Octets :=
  frameMagic ++ [protocolVersion, frame.service, frame.type, frame.flags] ++
    frame.requestId.toList ++ writeU32Be frame.sequence ++
    writeU32Be (BitVec.ofNat 32 payloadLen)

/-- Header, header check value and payload: what the record check value covers. -/
def rawBody (crc : Octets → BitVec 32) (frame : Frame) (payload : Octets) : Octets :=
  headerFields frame payload.length ++ writeU32Be (crc (headerFields frame payload.length)) ++
    payload

def rawRecord (crc : Octets → BitVec 32) (frame : Frame) (payload : Octets) : Octets :=
  rawBody crc frame payload ++ writeU32Be (crc (rawBody crc frame payload))

@[simp] theorem headerFields_length (frame : Frame) (n : ℕ) :
    (headerFields frame n).length = 32 := by
  simp [headerFields, frameMagic]

@[simp] theorem rawBody_length (crc : Octets → BitVec 32) (frame : Frame) (payload : Octets) :
    (rawBody crc frame payload).length = 36 + payload.length := by
  simp [rawBody]
  omega

@[simp] theorem rawRecord_length (crc : Octets → BitVec 32) (frame : Frame)
    (payload : Octets) : (rawRecord crc frame payload).length = 40 + payload.length := by
  simp [rawRecord]
  omega

/-- The frame a decoder reads off a raw record. -/
def frameOf (raw : Octets) : Frame where
  service := octetAt raw 5
  type := octetAt raw 6
  flags := octetAt raw 7
  requestId := ⟨(List.range 16).map fun i => octetAt raw (8 + i), by simp⟩
  sequence := readU32Be (raw.drop 24)

/-- The payload between header and trailer. -/
def payloadOf (raw : Octets) : Octets := (raw.drop 36).take (raw.length - 40)

/-- The layout checks of a decoder: magic, version, header check value, payload
length and record check value. -/
@[mk_iff]
structure IsRecord (crc : Octets → BitVec 32) (raw : Octets) : Prop where
  long : 40 ≤ raw.length
  magic : raw.take 4 = frameMagic
  version : octetAt raw 4 = protocolVersion
  headerCrc : readU32Be (raw.drop 32) = crc (raw.take 32)
  length : (readU32Be (raw.drop 28)).toNat = raw.length - 40
  recordCrc : readU32Be (raw.drop (raw.length - 4)) = crc (raw.take (raw.length - 4))

/-- A string of at least 40 octets, cut at the field boundaries. -/
structure RawParts where
  magic : OctetArray 4
  version : Octet
  service : Octet
  type : Octet
  flags : Octet
  requestId : OctetArray 16
  sequence : OctetArray 4
  length : OctetArray 4
  headerCrc : OctetArray 4
  payload : Octets
  recordCrc : OctetArray 4

namespace RawParts

variable (q : RawParts)

/-- Magic to payload length: the part under the header check value. -/
def fields : Octets :=
  q.magic.toList ++ [q.version, q.service, q.type, q.flags] ++ q.requestId.toList ++
    q.sequence.toList ++ q.length.toList

def octets : Octets := q.fields ++ q.headerCrc.toList ++ q.payload ++ q.recordCrc.toList

theorem fields_length : q.fields.length = 32 := by simp [fields]

theorem octets_length : q.octets.length = 40 + q.payload.length := by
  simp [octets, fields_length]
  omega

/-- Every long enough string can be cut. -/
theorem exists_octets_eq {raw : Octets} (h : 40 ≤ raw.length) : ∃ q : RawParts, q.octets = raw := by
  have hcut : ∀ n k : ℕ, n + k ≤ raw.length → ((raw.drop n).take k).length = k := by
    intro n k hnk
    rw [List.length_take, List.length_drop]
    omega
  have hone : ∀ n, n < raw.length → raw.drop n = octetAt raw n :: raw.drop (n + 1) := by
    intro n hn
    rw [List.drop_eq_getElem_cons hn, octetAt, List.getD_eq_getElem?_getD,
      List.getElem?_eq_getElem hn, Option.getD_some]
  have hmany : ∀ n k, (raw.drop n).take k ++ raw.drop (n + k) = raw.drop n := by
    intro n k
    rw [← List.drop_drop, List.take_append_drop]
  refine ⟨⟨⟨(raw.drop 0).take 4, hcut 0 4 (by omega)⟩, octetAt raw 4, octetAt raw 5,
    octetAt raw 6, octetAt raw 7, ⟨(raw.drop 8).take 16, hcut 8 16 (by omega)⟩,
    ⟨(raw.drop 24).take 4, hcut 24 4 (by omega)⟩, ⟨(raw.drop 28).take 4, hcut 28 4 (by omega)⟩,
    ⟨(raw.drop 32).take 4, hcut 32 4 (by omega)⟩, (raw.drop 36).take (raw.length - 40),
    ⟨(raw.drop (36 + (raw.length - 40))).take 4, hcut _ 4 (by omega)⟩⟩, ?_⟩
  simp only [octets, fields, List.Vector.toList_mk, List.append_assoc, List.cons_append,
    List.nil_append]
  rw [List.take_of_length_le (l := raw.drop (36 + (raw.length - 40))) (by simp; omega), hmany 36,
    hmany 32, hmany 28, hmany 24, hmany 8, ← hone 7 (by omega), ← hone 6 (by omega),
    ← hone 5 (by omega), ← hone 4 (by omega), hmany 0, List.drop_zero]

private theorem cut {a b s : Octets} {n : ℕ} (hs : s = a ++ b) (ha : a.length = n) :
    s.take n = a ∧ s.drop n = b := by
  subst hs ha
  exact ⟨List.take_left, List.drop_left⟩

theorem octets_take_four : q.octets.take 4 = q.magic.toList :=
  (cut (b := _) (by simp only [octets, fields, List.append_assoc]; rfl) (by simp)).1

theorem octets_take_fields : q.octets.take 32 = q.fields :=
  (cut (b := _) (by simp only [octets, List.append_assoc]; rfl) q.fields_length).1

theorem octets_drop_sequence : q.octets.drop 24 = q.sequence.toList ++ (q.length.toList ++
    (q.headerCrc.toList ++ (q.payload ++ q.recordCrc.toList))) :=
  (cut (a := q.magic.toList ++ [q.version, q.service, q.type, q.flags] ++ q.requestId.toList)
    (by simp [octets, fields]) (by simp)).2

theorem octets_drop_length : q.octets.drop 28 = q.length.toList ++
    (q.headerCrc.toList ++ (q.payload ++ q.recordCrc.toList)) :=
  (cut (a := q.magic.toList ++ [q.version, q.service, q.type, q.flags] ++ q.requestId.toList ++
    q.sequence.toList) (by simp [octets, fields]) (by simp)).2

theorem octets_drop_headerCrc : q.octets.drop 32
    = q.headerCrc.toList ++ (q.payload ++ q.recordCrc.toList) :=
  (cut (a := q.fields) (by simp [octets]) q.fields_length).2

theorem octets_drop_payload : q.octets.drop 36 = q.payload ++ q.recordCrc.toList :=
  (cut (a := q.fields ++ q.headerCrc.toList) (by simp [octets]) (by simp [fields_length])).2

theorem octets_cut_recordCrc :
    q.octets.take (q.octets.length - 4) = q.fields ++ q.headerCrc.toList ++ q.payload ∧
      q.octets.drop (q.octets.length - 4) = q.recordCrc.toList :=
  cut (by simp [octets]) (by simp [octets_length, fields_length]; omega)

theorem octetAt_octets {i : ℕ} (h4 : 4 ≤ i) (h8 : i < 8) :
    octetAt q.octets i = octetAt [q.version, q.service, q.type, q.flags] (i - 4) := by
  have : q.octets = q.magic.toList ++ ([q.version, q.service, q.type, q.flags] ++
      (q.requestId.toList ++ (q.sequence.toList ++ (q.length.toList ++ (q.headerCrc.toList ++
        (q.payload ++ q.recordCrc.toList)))))) := by
    simp [octets, fields]
  rw [this, octetAt_append_right (by simpa using h4), octetAt_append_left (by simp; omega)]
  simp

theorem requestId_octets :
    ((List.range 16).map fun i => octetAt q.octets (8 + i)) = q.requestId.toList := by
  have : q.octets = q.magic.toList ++ [q.version, q.service, q.type, q.flags] ++
      (q.requestId.toList ++ (q.sequence.toList ++ (q.length.toList ++ (q.headerCrc.toList ++
        (q.payload ++ q.recordCrc.toList))))) := by
    simp [octets, fields]
  apply List.ext_getElem
  · simp
  · intro i h1 h2
    have h8 : (q.magic.toList ++ [q.version, q.service, q.type, q.flags]).length = 8 := by simp
    rw [List.getElem_map, List.getElem_range, this, octetAt_append_right (by omega), h8,
      Nat.add_sub_cancel_left, octetAt_append_left h2, octetAt, List.getD_eq_getElem?_getD,
      List.getElem?_eq_getElem h2, Option.getD_some]

theorem frameOf_octets : frameOf q.octets
    = ⟨q.service, q.type, q.flags, q.requestId, readU32Be q.sequence.toList⟩ := by
  have hid : (⟨(List.range 16).map fun i => octetAt q.octets (8 + i), by simp⟩ : OctetArray 16)
      = q.requestId := Subtype.ext q.requestId_octets
  simp only [frameOf, hid, octets_drop_sequence, readU32Be_append (q.sequence.toList_length)]
  rw [octetAt_octets q (i := 5) (by omega) (by omega), octetAt_octets q (i := 6) (by omega) (by omega),
    octetAt_octets q (i := 7) (by omega) (by omega)]
  rfl

theorem payloadOf_octets : payloadOf q.octets = q.payload := by
  rw [payloadOf, octets_length, Nat.add_sub_cancel_left, octets_drop_payload, List.take_left]

/-- The layout checks, read field by field. -/
theorem isRecord_octets {crc : Octets → BitVec 32} : IsRecord crc q.octets ↔
    q.magic.toList = frameMagic ∧ q.version = protocolVersion ∧
      readU32Be q.headerCrc.toList = crc q.fields ∧
      (readU32Be q.length.toList).toNat = q.payload.length ∧
      readU32Be q.recordCrc.toList = crc (q.fields ++ q.headerCrc.toList ++ q.payload) := by
  have hver : octetAt q.octets 4 = q.version := octetAt_octets q (i := 4) (by omega) (by omega)
  rw [isRecord_iff, q.octets_cut_recordCrc.1, q.octets_cut_recordCrc.2, octets_take_four, hver,
    octets_drop_headerCrc, octets_take_fields, readU32Be_append q.headerCrc.toList_length,
    octets_drop_length, readU32Be_append q.length.toList_length, octets_length,
    Nat.add_sub_cancel_left]
  exact and_iff_right (Nat.le_add_right _ _)

end RawParts

/-- A string that passes the layout checks is the record of the frame and payload
read off it. -/
theorem IsRecord.eq_rawRecord {crc : Octets → BitVec 32} {raw : Octets}
    (h : IsRecord crc raw) : raw = rawRecord crc (frameOf raw) (payloadOf raw) := by
  obtain ⟨q, rfl⟩ := RawParts.exists_octets_eq h.long
  obtain ⟨hmagic, hver, hhcrc, hlen, hrcrc⟩ := q.isRecord_octets.mp h
  have hl : q.length.toList = writeU32Be (BitVec.ofNat 32 q.payload.length) := by
    rw [← hlen, BitVec.ofNat_toNat, BitVec.setWidth_eq,
      writeU32Be_readU32Be (q.length.toList_length)]
  have hfields : headerFields (frameOf q.octets) q.payload.length = q.fields := by
    rw [q.frameOf_octets, RawParts.fields, hmagic, hver, hl]
    simp only [headerFields, writeU32Be_readU32Be (q.sequence.toList_length)]
  have hbody : rawBody crc (frameOf q.octets) q.payload
      = q.fields ++ q.headerCrc.toList ++ q.payload := by
    rw [rawBody, hfields, ← hhcrc, writeU32Be_readU32Be (q.headerCrc.toList_length)]
  rw [q.payloadOf_octets, rawRecord, hbody, ← hrcrc,
    writeU32Be_readU32Be (q.recordCrc.toList_length)]
  rfl

variable {payload : Octets}

/-- A record passes the layout checks and gives its frame and payload back. -/
theorem isRecord_rawRecord (crc : Octets → BitVec 32) (frame : Frame) (h : payload.length < 2 ^ 32) :
    IsRecord crc (rawRecord crc frame payload) ∧ frameOf (rawRecord crc frame payload) = frame ∧
      payloadOf (rawRecord crc frame payload) = payload := by
  obtain ⟨q, hq⟩ : ∃ q : RawParts, q = ⟨⟨frameMagic, rfl⟩, protocolVersion, frame.service,
      frame.type, frame.flags, frame.requestId, ⟨writeU32Be frame.sequence, rfl⟩,
      ⟨writeU32Be (BitVec.ofNat 32 payload.length), rfl⟩,
      ⟨writeU32Be (crc (headerFields frame payload.length)), rfl⟩, payload,
      ⟨writeU32Be (crc (rawBody crc frame payload)), rfl⟩⟩ := ⟨_, rfl⟩
  have hfields : q.fields = headerFields frame payload.length := by
    rw [hq]; rfl
  have hraw : rawRecord crc frame payload = q.octets := by
    rw [RawParts.octets, hfields, rawRecord, rawBody, hq]
    rfl
  rw [hraw]
  refine ⟨q.isRecord_octets.mpr ⟨?_, ?_, ?_, ?_, ?_⟩, ?_, ?_⟩
  · rw [hq]; rfl
  · rw [hq]
  · rw [hfields, hq]
    exact readU32Be_self _
  · rw [hq]
    change (readU32Be (writeU32Be (BitVec.ofNat 32 payload.length))).toNat = _
    rw [readU32Be_self, BitVec.toNat_ofNat, Nat.mod_eq_of_lt h]
  · rw [hfields, hq]
    exact readU32Be_self _
  · rw [q.frameOf_octets, hq]
    change Frame.mk _ _ _ _ (readU32Be (writeU32Be frame.sequence)) = _
    rw [readU32Be_self]
  · rw [q.payloadOf_octets, hq]

/-! ### What may be sent -/

/-- The payload rule of a message type, under the given limits: a bounded body
for DATA and for the control messages, two non-zero words for ACK, nothing for
CANCEL and COMPLETE. -/
def PayloadAllowed (controlLimit dataLimit : ℕ) (type : MessageType) (payload : Octets) : Prop :=
  if type = messageData then payload.length ≤ dataLimit
  else if type = messageAck then
    payload.length = ackPayloadSize ∧ readU32Be payload ≠ 0 ∧ readU32Be (payload.drop 4) ≠ 0
  else if type = messageCancel ∨ type = messageComplete then payload.length = 0
  else payload.length ≤ controlLimit

/-- A frame and payload the protocol admits under the given limits. -/
structure Admissible (limits : FrameLimits) (frame : Frame) (payload : Octets) : Prop where
  service : serviceIsValid frame.service = true
  type : messageTypeIsValid frame.type = true
  flags : frame.flags = 0#8
  payload : PayloadAllowed limits.controlPayloadMax limits.dataPayloadMax frame.type payload

theorem PayloadAllowed.mono {c c' d d' : ℕ} {type : MessageType} (hc : c ≤ c') (hd : d ≤ d')
    (h : PayloadAllowed c d type payload) :
    PayloadAllowed c' d' type payload := by
  unfold PayloadAllowed at h ⊢
  split_ifs at h ⊢
  · exact Nat.le_trans h hd
  · exact h
  · exact h
  · exact Nat.le_trans h hc

theorem PayloadAllowed.length_le {c d : ℕ} {type : MessageType}
    (h : PayloadAllowed c d type payload) (hc : c ≤ controlPayloadMax) (hd : d ≤ dataPayloadMax) : payload.length ≤ 65536 := by
  unfold PayloadAllowed at h
  unfold controlPayloadMax at hc
  unfold dataPayloadMax at hd
  unfold ackPayloadSize at h
  split_ifs at h <;> omega

/-- What a smaller limit admits, the protocol's own limits admit. -/
theorem Admissible.default {limits : FrameLimits} {frame : Frame}
    (hl : limitsAreValid limits = true) (h : Admissible limits frame payload) :
    Admissible defaultLimits frame payload := by
  obtain ⟨hc, hd, -⟩ := limitsAreValid_iff.mp hl
  exact ⟨h.service, h.type, h.flags, h.payload.mono hc hd⟩

theorem Admissible.length_le {limits : FrameLimits} {frame : Frame}
    (hl : limitsAreValid limits = true) (h : Admissible limits frame payload) :
    payload.length ≤ 65536 := by
  obtain ⟨hc, hd, -⟩ := limitsAreValid_iff.mp hl
  exact h.payload.length_le hc hd

end Pbns
