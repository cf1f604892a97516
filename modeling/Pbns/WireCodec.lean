/-
The frame codec of the gateway (`gateway/internal/wire/frame.go`).

* `cobsEncode_eq` — the appending encoder computes `Cobs.encode`;
* `cobsDecode_eq_ok` — the decoder accepts exactly what the firmware's decoder
  accepts when it has room;
* `encode_eq_ok`, `decode_eq_ok` — what is encoded, and what is accepted.
-/
import Pbns.FrameCodec

namespace Pbns.Wire

open Octets Guard

/-- The sentinel errors of the package. -/
inductive Error
  | argument
  | limit
  | format
  | crc
  | version
  | service
  | messageType
  deriving DecidableEq, Repr

/-- `wire.Frame` carries its payload. -/
structure Frame extends Pbns.Frame where
  payload : Octets
  deriving DecidableEq

/-- `wire.Limits`: three signed machine integers. -/
structure Limits where
  controlPayloadMax : Int
  dataPayloadMax : Int
  encodedRecordMax : Int
  deriving DecidableEq

structure Decoder where
  limits : Limits
  deriving DecidableEq

def wireDefaultLimits : Limits := ⟨controlPayloadMax, dataPayloadMax, wireMax⟩

def newDecoder (limits : Limits) : Except Error Decoder := do
  rejectIf (limits.controlPayloadMax < 0 ∨ controlPayloadMax < limits.controlPayloadMax ∨
    limits.dataPayloadMax < 0 ∨ dataPayloadMax < limits.dataPayloadMax ∨
    limits.encodedRecordMax < 0 ∨ wireMax < limits.encodedRecordMax) .argument
  .ok ⟨limits⟩

/-! ### COBS -/

/-- The loop of `cobsEncode`: the rest of the input, the output so far, the index
reserved for the current code octet, and that code. -/
def cobsEncodeLoop : Octets → Octets → ℕ → Octet → Octets
  | [], output, codeIndex, code => output.set codeIndex code
  | value :: rest, output, codeIndex, code =>
    if value = 0#8 then
      cobsEncodeLoop rest (output.set codeIndex code ++ [0#8]) output.length 1#8
    else if code + 1#8 = 0xff#8 then
      cobsEncodeLoop rest ((output ++ [value]).set codeIndex (code + 1#8) ++ [0#8])
        (output.length + 1) 1#8
    else cobsEncodeLoop rest (output ++ [value]) codeIndex (code + 1#8)

def cobsEncode (input : Octets) : Octets := cobsEncodeLoop input [0#8] 0 1#8

/-- The loop of `cobsDecode`; `fuel` bounds the number of code octets. -/
def cobsDecodeLoop : ℕ → Octets → Octets → Except Error Octets
  | _, [], output => .ok output
  | 0, _ :: _, _ => .error .format
  | fuel + 1, code :: rest, output =>
    if code = 0#8 then .error .format
    else if rest.length < code.toNat - 1 then .error .format
    else if 0#8 ∈ rest.take (code.toNat - 1) then .error .format
    else if code ≠ 0xff#8 ∧ rest.drop (code.toNat - 1) ≠ [] then
      cobsDecodeLoop fuel (rest.drop (code.toNat - 1))
        (output ++ rest.take (code.toNat - 1) ++ [0#8])
    else cobsDecodeLoop fuel (rest.drop (code.toNat - 1)) (output ++ rest.take (code.toNat - 1))

def cobsDecode (input : Octets) : Except Error Octets :=
  if input.length = 0 then .error .format else cobsDecodeLoop input.length input []

/-- The invariant of the encoding loop: `done` is finished output, `p` the octet
reserved for the code of the block `cur`. -/
theorem cobsEncodeLoop_eq (s done cur : Octets) (p : Octet) (hcur : cur.length ≤ 253) :
    cobsEncodeLoop s (done ++ p :: cur) done.length (BitVec.ofNat 8 (cur.length + 1))
      = done ++ Cobs.wire (Cobs.blocksFrom cur s) := by
  induction s generalizing done cur p with
  | nil =>
    rw [cobsEncodeLoop, Cobs.blocksFrom]
    simp
  | cons x xs ih =>
    have hnext : BitVec.ofNat 8 (cur.length + 1) + 1#8 = BitVec.ofNat 8 (cur.length + 1 + 1) := by
      rw [BitVec.ofNat_add (cur.length + 1) 1]
    rw [cobsEncodeLoop, Cobs.blocksFrom]
    by_cases hx : x = 0#8
    · rw [if_pos hx, if_pos hx]
      have := ih (done ++ BitVec.ofNat 8 (cur.length + 1) :: cur) [] 0#8
        (by simp)
      simpa using this
    rw [if_neg hx, if_neg hx, hnext]
    by_cases h253 : cur.length = 253
    · -- the block is full with this octet
      rw [if_pos (by rw [h253]), if_pos h253]
      have := ih (done ++ BitVec.ofNat 8 (cur.length + 1 + 1) :: (cur ++ [x])) [] 0#8 (by simp)
      simpa [Nat.add_assoc] using this
    · have hne : BitVec.ofNat 8 (cur.length + 1 + 1) ≠ 0xff#8 := by
        intro h
        have := congrArg BitVec.toNat h
        rw [BitVec.toNat_ofNat, Nat.mod_eq_of_lt (by omega)] at this
        have h255 : (0xff#8).toNat = 255 := rfl
        omega
      rw [if_neg hne, if_neg h253]
      have := ih done (cur ++ [x]) p (by simp; omega)
      simpa using this

theorem cobsEncode_eq (input : Octets) : cobsEncode input = Cobs.encode input :=
  cobsEncodeLoop_eq input [] [] 0#8 (by simp)

/-- Run side by side with enough room, the two decoding loops accept the same
strings: a block never produces more octets than it consumes. -/
theorem cobsDecodeLoop_eq_ok {cap fuel : ℕ} {s out r : Octets} (hroom : out.length + s.length ≤ cap) :
    cobsDecodeLoop fuel s out = .ok r ↔ Pbns.cobsDecodeLoop cap fuel s out = .ok r := by
  fun_induction cobsDecodeLoop fuel s out <;> rw [Pbns.cobsDecodeLoop]
  case case1 | case2 | case3 | case4 => simp_all
  all_goals rw [List.length_cons] at hroom
  case case5 fuel c s out hc hlen hz =>
    rw [if_neg hc, if_neg hlen, if_neg (by omega), if_pos hz]
    simp
  case case6 fuel c s out hc hlen hz hcont ih =>
    have htake : (s.take (c.toNat - 1)).length = c.toNat - 1 := List.length_take_of_le (by omega)
    rw [if_neg hc, if_neg hlen, if_neg (by omega), if_neg hz, if_pos hcont, if_neg (by simp [htake]; omega)]
    exact ih (by simp [htake]; omega)
  case case7 fuel c s out hc hlen hz hcont ih =>
    have htake : (s.take (c.toNat - 1)).length = c.toNat - 1 := List.length_take_of_le (by omega)
    rw [if_neg hc, if_neg hlen, if_neg (by omega), if_neg hz, if_neg hcont]
    exact ih (by simp [htake]; omega)

theorem cobsDecode_eq_ok {input r : Octets} :
    cobsDecode input = .ok r ↔ Pbns.cobsDecode input input.length = .ok r := by
  rw [cobsDecode, Pbns.cobsDecode]
  split
  · simp
  · exact cobsDecodeLoop_eq_ok (by simp)

/-! ### Frames -/

/-- `payloadLengthError`; the result `none` is the `nil` error. -/
def payloadLengthError (messageType : MessageType) (payloadLength controlLimit dataLimit : ℕ) :
    Option Error :=
  if messageType = messageData then if dataLimit < payloadLength then some .limit else none
  else if messageType = messageAck then
    if payloadLength ≠ ackPayloadSize then some .format else none
  else if messageType = messageCancel ∨ messageType = messageComplete then
    if payloadLength ≠ 0 then some .format else none
  else if messageType = messageRequest ∨ messageType = messageResponse ∨
      messageType = messageError then
    if controlLimit < payloadLength then some .limit else none
  else some .messageType

/-- The conversion `uint64(x)` of a signed machine integer. -/
def toUint64 (x : Int) : ℕ := (x % 2 ^ 64).toNat

def payloadError (messageType : MessageType) (payload : Octets) (controlLimit dataLimit : Int) :
    Option Error :=
  match payloadLengthError messageType payload.length (toUint64 controlLimit)
    (toUint64 dataLimit) with
  | some err => some err
  | none =>
    if messageType = messageAck ∧
        (readU32Be (payload.take 4) = 0#32 ∨ readU32Be (payload.drop 4) = 0#32) then
      some .format
    else none

/-- `if err != nil { return err }` -/
def Error.check : Option Error → Except Error Unit
  | none => .ok ()
  | some err => .error err

@[simp] theorem Error.check_bind_eq_ok {α : Type} {err : Option Error}
    {rest : Unit → Except Error α} {a : α} :
    (Error.check err >>= rest) = .ok a ↔ err = none ∧ rest () = .ok a := by
  cases err <;> simp [check]

/-- `Encode`. -/
def encode (frame : Frame) : Except Error Octets := do
  rejectIf (serviceIsValid frame.service = false) .service
  rejectIf (messageTypeIsValid frame.type = false) .messageType
  rejectIf (frame.flags ≠ 0#8) .format
  Error.check (payloadError frame.type frame.payload controlPayloadMax dataPayloadMax)
  rejectIf (rawMax < headerSize + frame.payload.length + trailerSize) .limit
  let encoded := cobsEncode (rawRecord goChecksum frame.toFrame frame.payload)
  rejectIf (wireMax < encoded.length + 1) .limit
  .ok (encoded ++ [0#8])

/-- `Decode` after COBS: the checks on the raw record, in the order of the source. -/
def decodeRaw (limits : Limits) (raw : Octets) : Except Error Frame := do
  rejectIf (raw.length < headerSize + trailerSize) .format
  rejectIf (rawMax < raw.length) .limit
  rejectIf (raw.take 4 ≠ frameMagic) .format
  rejectIf (octetAt raw 4 ≠ protocolVersion) .version
  rejectIf (readU32Be (raw.drop 32) ≠ goChecksum (raw.take 32)) .crc
  let frame := frameOf raw
  rejectIf (serviceIsValid frame.service = false) .service
  rejectIf (messageTypeIsValid frame.type = false) .messageType
  rejectIf (frame.flags ≠ 0#8) .format
  let payloadLength := (readU32Be (raw.drop 28)).toNat
  Error.check (payloadLengthError frame.type payloadLength
    (toUint64 limits.controlPayloadMax) (toUint64 limits.dataPayloadMax))
  rejectIf (raw.length ≠ headerSize + trailerSize + payloadLength) .format
  rejectIf (readU32Be (raw.drop (raw.length - trailerSize))
    ≠ goChecksum (raw.take (raw.length - trailerSize))) .crc
  let payload := (raw.take (raw.length - trailerSize)).drop headerSize
  Error.check (payloadError frame.type payload limits.controlPayloadMax limits.dataPayloadMax)
  .ok ⟨frame, payload⟩

/-- `(*Decoder).Decode` of a record with its delimiter. -/
def decode (decoder : Decoder) (wireRecord : Octets) : Except Error Frame := do
  rejectIf (decoder.limits.encodedRecordMax < wireRecord.length) .limit
  rejectIf (wireRecord.length < 2 ∨ octetAt wireRecord (wireRecord.length - 1) ≠ 0#8 ∨
    0#8 ∈ wireRecord.take (wireRecord.length - 1)) .format
  let raw ← cobsDecode (wireRecord.take (wireRecord.length - 1))
  decodeRaw decoder.limits raw

/-- The gateway's limits with the values of the firmware's. -/
def limitsOf (limits : FrameLimits) : Limits :=
  ⟨limits.controlPayloadMax, limits.dataPayloadMax, limits.encodedRecordMax⟩

/-- The two sides allow the same limits. -/
theorem newDecoder_eq_ok {limits : Limits} {decoder : Decoder} :
    newDecoder limits = .ok decoder ↔
      ∃ l, limitsAreValid l = true ∧ limits = limitsOf l ∧ decoder = ⟨limits⟩ := by
  simp only [newDecoder, rejectIf_bind_eq_ok, Except.ok.injEq, limitsAreValid, Bool.and_eq_true,
    decide_eq_true_eq]
  constructor
  · rintro ⟨h, rfl⟩
    refine ⟨⟨limits.controlPayloadMax.toNat, limits.dataPayloadMax.toNat,
      limits.encodedRecordMax.toNat⟩, by simp only; omega, ?_, rfl⟩
    have h1 : (limits.controlPayloadMax.toNat : Int) = limits.controlPayloadMax := by omega
    have h2 : (limits.dataPayloadMax.toNat : Int) = limits.dataPayloadMax := by omega
    have h3 : (limits.encodedRecordMax.toNat : Int) = limits.encodedRecordMax := by omega
    simp only [limitsOf, h1, h2, h3]
  · rintro ⟨l, hl, rfl, rfl⟩
    simp only [limitsOf]
    exact ⟨by omega, trivial⟩

@[simp] theorem toUint64_natCast {n : ℕ} (h : n < 2 ^ 64) : toUint64 (n : Int) = n := by
  simp only [toUint64]
  omega

/-- The length test of the two sides. -/
theorem payloadLengthError_eq_none {type : MessageType} {n controlLimit dataLimit : ℕ} :
    payloadLengthError type n controlLimit dataLimit = none ↔
      validatePayloadLength type n controlLimit dataLimit = .ok := by
  simp only [payloadLengthError, validatePayloadLength]
  split_ifs <;> simp_all <;> omega

/-- The payload test is the payload rule. -/
theorem payloadError_eq_none {type : MessageType} (htype : messageTypeIsValid type = true)
    {payload : Octets} {controlLimit dataLimit : ℕ} (hc : controlLimit < 2 ^ 64)
    (hd : dataLimit < 2 ^ 64) : payloadError type payload controlLimit dataLimit = none ↔
      PayloadAllowed controlLimit dataLimit type payload := by
  have htake : readU32Be (payload.take 4) = readU32Be payload := by
    rcases payload with _ | ⟨a, _ | ⟨b, _ | ⟨c, _ | ⟨d, s⟩⟩⟩⟩ <;> rfl
  rw [← payload_checks htype, payloadError, toUint64_natCast hc, toUint64_natCast hd,
    ← payloadLengthError_eq_none, validateAckPayload, htake]
  rcases payloadLengthError type payload.length controlLimit dataLimit with _ | err
  · simp
  · simp

variable {frame : Frame} {limits : FrameLimits}

/-- **What the gateway encodes.** -/
theorem encode_eq_ok {bytes : Octets} :
    encode frame = .ok bytes ↔ Admissible defaultLimits frame.toFrame frame.payload ∧
      bytes = stuffed frame.toFrame frame.payload ++ [0#8] := by
  have hraw : cobsEncode (rawRecord goChecksum frame.toFrame frame.payload)
      = stuffed frame.toFrame frame.payload := by
    rw [cobsEncode_eq, stuffed, funext crc32c_eq_checksum]
  have hpay : ∀ h : messageTypeIsValid frame.type = true,
      payloadError frame.type frame.payload controlPayloadMax dataPayloadMax = none ↔
        PayloadAllowed controlPayloadMax dataPayloadMax frame.type frame.payload := fun h =>
    payloadError_eq_none h (by decide) (by decide)
  simp only [encode, rejectIf_bind_eq_ok, Error.check_bind_eq_ok, Except.ok.injEq,
    Bool.not_eq_false, hraw]
  constructor
  · rintro ⟨h1, h2, h3, h4, -, -, rfl⟩
    exact ⟨⟨h1, h2, not_not.mp h3, (hpay h2).mp h4⟩, rfl⟩
  · rintro ⟨h, rfl⟩
    have hlen := h.length_le rfl
    have henc := length_stuffed_le frame.toFrame frame.payload
    exact ⟨h.service, h.type, not_not.mpr h.flags, (hpay h.type).mpr h.payload,
      by simp only [rawMax, headerSize, trailerSize]; omega, by simp only [wireMax]; omega, rfl⟩

/-- The raw record checks accept what the firmware's accept: the further tests
here follow from those. -/
theorem decodeRaw_eq_ok (hl : limitsAreValid limits = true) {raw : Octets} : decodeRaw (limitsOf limits) raw = .ok frame ↔
      Pbns.decodeRaw limits raw = .ok (frame.toFrame, frame.payload) := by
  obtain ⟨f, p⟩ := frame
  obtain ⟨hc, hd, -⟩ := limitsAreValid_iff.mp hl
  have hctl : limits.controlPayloadMax < 2 ^ 64 := by omega
  have hdata : limits.dataPayloadMax < 2 ^ 64 := by omega
  have hpayload : raw.length = headerSize + (readU32Be (raw.drop 28)).toNat + trailerSize →
      (raw.take (raw.length - trailerSize)).drop headerSize
        = (raw.drop headerSize).take (readU32Be (raw.drop 28)).toNat := by
    intro h
    rw [List.drop_take, show raw.length - trailerSize - headerSize
      = (readU32Be (raw.drop 28)).toNat by omega]
  simp only [decodeRaw, Pbns.decodeRaw, rejectIf_bind_eq_ok, Error.check_bind_eq_ok,
    Status.check_bind_eq_ok, Except.ok.injEq, Bool.not_eq_false, Prod.mk.injEq, Frame.mk.injEq,
    ← crc32c_eq_checksum, limitsOf, toUint64_natCast hctl, toUint64_natCast hdata,
    payloadLengthError_eq_none]
  constructor
  · rintro ⟨h1, -, h2, h3, h4, h5, h6, h7, h8, h9, h10, h11, hf, hp⟩
    have h9' : raw.length = headerSize + (readU32Be (raw.drop 28)).toNat + trailerSize := by omega
    rw [hpayload h9'] at h11 hp
    rw [payloadError_eq_none h6 hctl hdata, ← payload_checks h6] at h11
    exact ⟨h1, h2, h3, h4, h5, h6, h7, h8, not_not.mpr h9', h10, h11.2, hf, hp⟩
  · rintro ⟨h1, h2, h3, h4, h5, h6, h7, h8, h9, h10, h11, hf, hp⟩
    have h9' : raw.length = headerSize + (readU32Be (raw.drop 28)).toNat + trailerSize :=
      not_not.mp h9
    have hlen : ((raw.drop headerSize).take (readU32Be (raw.drop 28)).toNat).length
        = (readU32Be (raw.drop 28)).toNat := by
      rw [List.length_take, List.length_drop]
      omega
    rw [← hlen] at h8
    have hallowed := (payload_checks h6 _ _ _).mp ⟨h8, h11⟩
    have hmax := hallowed.length_le hc hd
    rw [hlen] at h8 hmax
    rw [hpayload h9', payloadError_eq_none h6 hctl hdata]
    refine ⟨h1, ?_, h2, h3, h4, h5, h6, h7, h8, by omega, h10, hallowed, hf, hp⟩
    simp only [headerSize, trailerSize, rawMax] at h9' ⊢
    omega

/-- **What the gateway accepts**, for a record without zeros in front of its
delimiter. -/
theorem decode_eq_ok (hl : limitsAreValid limits = true) {record : Octets} (hz : 0#8 ∉ record) :
    decode ⟨limitsOf limits⟩ (record ++ [0#8]) = .ok frame ↔
      record.length + 1 ≤ limits.encodedRecordMax ∧
      cobsDecode record = .ok (rawRecord crc32c frame.toFrame frame.payload) ∧
      Admissible limits frame.toFrame frame.payload := by
  have htake : (record ++ [0#8]).take ((record ++ [0#8]).length - 1) = record := by simp
  have hlast : octetAt (record ++ [0#8]) ((record ++ [0#8]).length - 1) = 0#8 := by
    simp [octetAt]
  have hlen : (record ++ [0#8]).length = record.length + 1 := by simp
  simp only [decode, rejectIf_bind_eq_ok, htake, hlast]
  constructor
  · rintro ⟨h1, -, h⟩
    obtain ⟨raw, hraw, hdec⟩ := bind_eq_ok.mp h
    obtain ⟨rfl, hadm⟩ := (Pbns.decodeRaw_eq_ok hl).mp ((decodeRaw_eq_ok hl).mp hdec)
    exact ⟨by simp only [limitsOf, hlen] at h1; omega, hraw, hadm⟩
  · rintro ⟨h1, hraw, hadm⟩
    have hne : record ≠ [] := by
      rintro rfl
      exact absurd hraw (by simp [cobsDecode])
    have hpos := List.length_pos_iff.mpr hne
    refine ⟨by simp only [limitsOf, hlen]; omega, ?_, ?_⟩
    · rw [hlen]
      rintro (h | h | h)
      · omega
      · exact h rfl
      · exact hz h
    · rw [hraw, bind_ok]
      exact (decodeRaw_eq_ok hl).mpr ((Pbns.decodeRaw_eq_ok hl).mpr ⟨rfl, hadm⟩)

/-- Decoding what either side encoded. -/
theorem decode_stuffed (hl : limitsAreValid limits = true)
    (h : Admissible limits frame.toFrame frame.payload)
    (hlen : (stuffed frame.toFrame frame.payload).length + 1 ≤ limits.encodedRecordMax) :
    decode ⟨limitsOf limits⟩ (stuffed frame.toFrame frame.payload ++ [0#8]) = .ok frame := by
  have hcobs := cobsDecode_encode (Nat.le_refl (rawRecord crc32c frame.toFrame frame.payload).length)
  exact (decode_eq_ok hl (zero_notMem_stuffed _ _)).mpr
    ⟨hlen, cobsDecode_eq_ok.mpr (cobsDecode_of_fits hcobs (length_le_of_cobsDecode hcobs)), h⟩

end Pbns.Wire
