/-
The frame codec of the firmware side (`src/core/cobs.c`, `src/core/frame.c`).

Buffers are values: an input view is the string it shows, a scratch buffer is its
capacity, and the output buffer is its whole contents, because other parts of the
program read that memory.  Distinct buffers are distinct objects, so the overlap
tests of the source have nothing to compare.

The loops are brought back to block lists and records:

* `cobsEncode_of_room` — with room for it, the encoder leaves `Cobs.encode` at the
  front of the output and the rest of the memory alone;
* `cobsDecode_eq_ok` — the decoder accepts exactly the strings that parse into
  blocks and whose contents fit;
* `frameEncode_of_admissible`, `decodeRaw_eq_ok` — a frame is admissible exactly
  when it encodes, and a raw record decodes exactly when it is the record of an
  admissible frame.
-/
import Pbns.Cobs
import Pbns.Crc32c
import Pbns.FrameTypes

namespace Pbns

open Octets Guard

/-! ### COBS -/

/-- `pbns_cobs_max_encoded_size`. -/
def cobsMaxEncodedSize (inputLen : ℕ) : Except Status ℕ :=
  if sizeMax - (inputLen / 254 + 1) < inputLen then .error .errLimit
  else .ok (inputLen + (inputLen / 254 + 1))

/-- The loop of `pbns_cobs_encode`: the rest of the input, the output memory, the
write index, the index reserved for the current code octet, and that code. -/
def cobsEncodeLoop : Octets → Octets → ℕ → ℕ → Octet → Status × Octets × ℕ
  | [], mem, w, codeIndex, code => (.ok, mem.set codeIndex code, w)
  | x :: xs, mem, w, codeIndex, code =>
    if x = 0#8 then
      if mem.length ≤ w then (.errLimit, mem.set codeIndex code, 0)
      else cobsEncodeLoop xs (mem.set codeIndex code) (w + 1) w 1#8
    else if mem.length ≤ w then (.errLimit, mem, 0)
    else if code + 1#8 = 0xff#8 then
      if mem.length ≤ w + 1 then (.errLimit, (mem.set w x).set codeIndex (code + 1#8), 0)
      else cobsEncodeLoop xs ((mem.set w x).set codeIndex (code + 1#8)) (w + 2) (w + 1) 1#8
    else cobsEncodeLoop xs (mem.set w x) (w + 1) codeIndex (code + 1#8)

/-- `pbns_cobs_encode`: status, output memory and number of octets written. -/
def cobsEncode (input output : Octets) : Status × Octets × ℕ :=
  if output.length = 0 then (.errLimit, output, 0)
  else cobsEncodeLoop input output 1 0 1#8

/-- The loop of `pbns_cobs_decode`: the rest of the input and the output so far;
`fuel` bounds the number of code octets. -/
def cobsDecodeLoop (cap : ℕ) : ℕ → Octets → Octets → Except Status Octets
  | _, [], out => .ok out
  | 0, _ :: _, _ => .error .errFormat
  | fuel + 1, code :: s, out =>
    if code = 0#8 then .error .errFormat
    else if s.length < code.toNat - 1 then .error .errFormat
    else if cap - out.length < code.toNat - 1 then .error .errLimit
    else if 0#8 ∈ s.take (code.toNat - 1) then .error .errFormat
    else if code ≠ 0xff#8 ∧ s.drop (code.toNat - 1) ≠ [] then
      if cap ≤ (out ++ s.take (code.toNat - 1)).length then .error .errLimit
      else cobsDecodeLoop cap fuel (s.drop (code.toNat - 1))
        (out ++ s.take (code.toNat - 1) ++ [0#8])
    else cobsDecodeLoop cap fuel (s.drop (code.toNat - 1)) (out ++ s.take (code.toNat - 1))

/-- `pbns_cobs_decode` into a buffer of capacity `cap`. -/
def cobsDecode (input : Octets) (cap : ℕ) : Except Status Octets :=
  if input.length = 0 then .error .errFormat
  else cobsDecodeLoop cap input.length input []

/-- The invariant of the encoding loop: `done` is finished output, `p` the octet
reserved for the code of the block `cur`, `fill` the memory that what is left will take. -/
theorem cobsEncodeLoop_of_room (s done cur fill rest : Octets) (p : Octet)
    (hcur : cur.length ≤ 253)
    (hfill : (Cobs.wire (Cobs.blocksFrom cur s)).length = (p :: cur ++ fill).length) :
    cobsEncodeLoop s (done ++ p :: cur ++ fill ++ rest) (done ++ p :: cur).length done.length
        (BitVec.ofNat 8 (cur.length + 1)) =
      (.ok, done ++ Cobs.wire (Cobs.blocksFrom cur s) ++ rest,
        (done ++ Cobs.wire (Cobs.blocksFrom cur s)).length) := by
  induction s generalizing done cur fill p with
  | nil =>
    obtain rfl : fill = [] := by
      simpa [Cobs.blocksFrom] using hfill
    simp [cobsEncodeLoop, Cobs.blocksFrom]
  | cons x xs ih =>
    have hnext : Cobs.wire (Cobs.blocksFrom [] xs) ≠ [] :=
      List.ne_nil_of_length_pos (Cobs.le_length_wire_blocksFrom [] xs)
    by_cases hx : x = 0#8
    · -- a zero closes the current block
      rw [Cobs.blocksFrom, if_pos hx] at hfill ⊢
      cases fill with
      | nil => simp [hnext] at hfill
      | cons t fill =>
        have := ih (done ++ BitVec.ofNat 8 (cur.length + 1) :: cur) [] fill t (by simp)
          (by simp at hfill ⊢; omega)
        rw [cobsEncodeLoop, if_pos hx, if_neg (by simp)]
        simpa [Nat.add_assoc] using this
    · rw [Cobs.blocksFrom, if_neg hx] at hfill ⊢
      have hset : ∀ t fill, (done ++ p :: cur ++ t :: fill ++ rest).set (done ++ p :: cur).length x =
          done ++ p :: (cur ++ [x]) ++ fill ++ rest := by
        simp
      by_cases h253 : cur.length = 253
      · -- the block is full: close it and reserve the next code octet
        rw [if_pos h253] at hfill ⊢
        rcases fill with _ | ⟨t, _ | ⟨t', fill⟩⟩
        · simp at hfill
        · simp [hnext] at hfill
        · have := ih (done ++ 0xff#8 :: (cur ++ [x])) [] fill t' (by simp) (by simp at hfill ⊢; omega)
          have hcode : BitVec.ofNat 8 (cur.length + 1) + 1#8 = 0xff#8 := by
            rw [h253]
            rfl
          rw [cobsEncodeLoop, if_neg hx, if_neg (by simp), hcode, if_pos rfl, if_neg (by simp; omega), hset]
          simpa [Nat.add_assoc, h253] using this
      · -- one more octet in the current block
        rw [if_neg h253] at hfill ⊢
        have hmore := Cobs.le_length_wire_blocksFrom (cur ++ [x]) xs
        cases fill with
        | nil =>
          simp at hfill hmore
          omega
        | cons t fill =>
          have := ih done (cur ++ [x]) fill p (by simp; omega) (by simp at hfill ⊢; omega)
          have hcode : BitVec.ofNat 8 (cur.length + 1) + 1#8 = BitVec.ofNat 8 ((cur ++ [x]).length + 1) := by
            rw [List.length_append, List.length_singleton, BitVec.ofNat_add (cur.length + 1) 1]
          have hne : BitVec.ofNat 8 ((cur ++ [x]).length + 1) ≠ 0xff#8 := by
            intro h
            have := congrArg BitVec.toNat h
            rw [Cobs.toNat_code (by simp; omega)] at this
            simp at this
            omega
          rw [cobsEncodeLoop, if_neg hx, if_neg (by simp), hcode, if_neg hne, hset]
          simpa [Nat.add_assoc] using this
variable {input output : Octets} {cap : ℕ} {r : Octets} {frame : Frame} {payload : Octets}
   {rawScratchCap : ℕ} {limits : FrameLimits} {scratchCap : ℕ}

/-- With room for the stuffed string, the encoder writes it and nothing else. -/
theorem cobsEncode_of_room (h : (Cobs.encode input).length ≤ output.length) :
    cobsEncode input output
      = (.ok, Cobs.encode input ++ output.drop (Cobs.encode input).length,
        (Cobs.encode input).length) := by
  obtain ⟨n, hn⟩ := Nat.exists_eq_add_of_lt (Cobs.length_encode_pos input)
  rcases output with _ | ⟨p, tail⟩
  · rw [List.length_nil] at h
    omega
  · rw [List.length_cons] at h
    have hloop := cobsEncodeLoop_of_room input [] [] (tail.take n) (tail.drop n) p (Nat.zero_le _)
      (by rw [List.length_append, List.length_take_of_le (by omega)]; exact hn.trans (by simp; omega))
    rw [List.append_assoc, List.take_append_drop] at hloop
    have hdrop : (p :: tail).drop (Cobs.encode input).length = tail.drop n := by
      rw [hn, Nat.zero_add, List.drop_succ_cons]
    rw [cobsEncode, if_neg (by simp), hdrop]
    exact hloop

/-- One block of the decoding loop. -/
theorem cobsDecodeLoop_cons {fuel : ℕ} {c : Octet} {s out r : Octets} (hout : out.length ≤ cap)
    (hc : c ≠ 0#8) (hlen : ¬ s.length < c.toNat - 1) (hz : 0#8 ∉ s.take (c.toNat - 1)) :
    cobsDecodeLoop cap (fuel + 1) (c :: s) out = .ok r ↔
      let next := out ++ s.take (c.toNat - 1) ++
        if c ≠ 0xff#8 ∧ s.drop (c.toNat - 1) ≠ [] then [0#8] else []
      next.length ≤ cap ∧ cobsDecodeLoop cap fuel (s.drop (c.toNat - 1)) next = .ok r := by
  have hrun : (s.take (c.toNat - 1)).length = c.toNat - 1 := List.length_take_of_le (by omega)
  rw [cobsDecodeLoop, if_neg hc, if_neg hlen, if_neg hz]
  by_cases hcont : c ≠ 0xff#8 ∧ s.drop (c.toNat - 1) ≠ []
  · simp only [if_pos hcont, List.length_append, hrun, List.length_singleton]
    split_ifs
    · simp
      omega
    · simp
      omega
    · exact ⟨fun h => ⟨by omega, h⟩, And.right⟩
  · simp only [if_neg hcont, List.append_nil, List.length_append, hrun]
    split_ifs
    · simp
      omega
    · exact ⟨fun h => ⟨by omega, h⟩, And.right⟩

/-- The decoding loop follows `Cobs.parse`, appending block contents as it goes,
and gives up only when they outgrow the buffer. -/
theorem cobsDecodeLoop_eq_ok : ∀ {fuel : ℕ} {s out r : Octets}, s.length ≤ fuel →
    out.length ≤ cap → (cobsDecodeLoop cap fuel s out = .ok r ↔
      ∃ bs, Cobs.parse fuel s = some bs ∧ r = out ++ Cobs.join bs ∧ r.length ≤ cap) := by
  intro fuel s out r hs hout
  induction fuel generalizing s out with
  | zero =>
    obtain rfl : s = [] := List.length_eq_zero_iff.mp (by omega)
    simp [cobsDecodeLoop, Cobs.parse, Cobs.join]
    grind
  | succ fuel ih =>
    rcases s with _ | ⟨c, s⟩
    · simp [cobsDecodeLoop, Cobs.parse, Cobs.join]
      grind
    · rw [List.length_cons] at hs
      by_cases hc : c = 0#8
      · simp [cobsDecodeLoop, Cobs.parse, hc]
      by_cases hlen : s.length < c.toNat - 1
      · simp [cobsDecodeLoop, Cobs.parse, hc, hlen]
      by_cases hz : 0#8 ∈ s.take (c.toNat - 1)
      · simp only [cobsDecodeLoop, Cobs.parse, if_neg hc, if_neg hlen, if_pos hz]
        split_ifs <;> simp
      have hdrop : (s.drop (c.toNat - 1)).length ≤ fuel := by
        rw [List.length_drop]
        omega
      have hfull : (s.take (c.toNat - 1)).length = 254 ↔ c = 0xff#8 := by
        rw [List.length_take_of_le (by omega), BitVec.toNat_eq, show (0xff#8).toNat = 255 from rfl]
        omega
      -- the last block is the one after which nothing is left to parse
      have hjoin : ∀ {bs}, Cobs.parse fuel (s.drop (c.toNat - 1)) = some bs →
          out ++ Cobs.join (s.take (c.toNat - 1) :: bs) = out ++ s.take (c.toNat - 1) ++
            (if c ≠ 0xff#8 ∧ s.drop (c.toNat - 1) ≠ [] then [0#8] else []) ++ Cobs.join bs := by
        intro bs hbs
        have hlast : bs = [] ↔ s.drop (c.toNat - 1) = [] := by
          rw [← ((Cobs.parse_eq_some hdrop).mp hbs).1]
          cases bs <;> simp
        simp only [Cobs.join, hfull, hlast]
        split_ifs <;> first | tauto | simp
      rw [cobsDecodeLoop_cons hout hc hlen hz, Cobs.parse, if_neg hc, if_neg hlen, if_neg hz]
      constructor
      · rintro ⟨hnext, h⟩
        obtain ⟨bs, hbs, rfl, hr⟩ := (ih hdrop hnext).mp h
        exact ⟨_, Option.map_eq_some_iff.mpr ⟨bs, hbs, rfl⟩, (hjoin hbs).symm, hr⟩
      · rintro ⟨bs', hbs', hjoined, hr⟩
        obtain ⟨bs, hbs, rfl⟩ := Option.map_eq_some_iff.mp hbs'
        rw [hjoin hbs] at hjoined
        have hlength := congrArg List.length hjoined
        rw [List.length_append] at hlength
        exact ⟨by omega, (ih hdrop (by omega)).mpr ⟨bs, hbs, hjoined, hr⟩⟩
/-- **What the COBS decoder accepts**: non-empty block lists whose contents fit. -/
theorem cobsDecode_eq_ok :
    cobsDecode input cap = .ok r ↔
      ∃ bs, bs ≠ [] ∧ (∀ b ∈ bs, Cobs.IsBlock b) ∧ Cobs.wire bs = input ∧
        r = Cobs.join bs ∧ r.length ≤ cap := by
  rw [cobsDecode]
  split
  · rename_i h
    obtain rfl : input = [] := List.length_eq_zero_iff.mp h
    constructor
    · intro h
      simp at h
    · rintro ⟨bs, hne, -, hw, -⟩
      rcases bs with _ | ⟨b, bs⟩
      · exact absurd rfl hne
      · simp at hw
  · rename_i h
    rw [cobsDecodeLoop_eq_ok (Nat.le_refl _) (Nat.zero_le _)]
    constructor
    · rintro ⟨bs, hbs, rfl, hr⟩
      obtain ⟨hw, hall⟩ := (Cobs.parse_eq_some (Nat.le_refl _)).mp hbs
      refine ⟨bs, ?_, hall, hw, by simp, hr⟩
      rintro rfl
      exact h (by rw [← hw]; rfl)
    · rintro ⟨bs, -, hall, hw, rfl, hr⟩
      exact ⟨bs, (Cobs.parse_eq_some (Nat.le_refl _)).mpr ⟨hw, hall⟩, by simp, hr⟩

/-- What decodes at all decodes into any buffer its contents fit. -/
theorem cobsDecode_of_fits {cap' : ℕ} (h : cobsDecode input cap = .ok r) (hr : r.length ≤ cap') : cobsDecode input cap' = .ok r := by
  obtain ⟨bs, hne, hall, hw, hj, -⟩ := cobsDecode_eq_ok.mp h
  exact cobsDecode_eq_ok.mpr ⟨bs, hne, hall, hw, hj, hr⟩

theorem length_le_of_cobsDecode (h : cobsDecode input cap = .ok r) :
    r.length ≤ input.length := by
  obtain ⟨bs, -, -, rfl, rfl, -⟩ := cobsDecode_eq_ok.mp h
  exact Cobs.length_join_le bs

/-- Decoding what was encoded. -/
theorem cobsDecode_encode {s : Octets} (h : s.length ≤ cap) :
    cobsDecode (Cobs.encode s) cap = .ok s :=
  cobsDecode_eq_ok.mpr ⟨Cobs.blocks s, Cobs.blocksFrom_ne_nil [] s,
    fun _ => Cobs.isBlock_of_mem_blocks, rfl, (Cobs.join_blocks s).symm, h⟩

/-! ### Frames -/

def validatePayloadLength (type : MessageType) (payloadLen controlLimit dataLimit : ℕ) : Status :=
  if type = messageData then if payloadLen ≤ dataLimit then .ok else .errLimit
  else if type = messageAck then if payloadLen = ackPayloadSize then .ok else .errFormat
  else if type = messageCancel ∨ type = messageComplete then
    if payloadLen = 0 then .ok else .errFormat
  else if type = messageRequest ∨ type = messageResponse ∨ type = messageError then
    if payloadLen ≤ controlLimit then .ok else .errLimit
  else .errMessageType

def validateAckPayload (type : MessageType) (payload : Octets) : Status :=
  if type = messageAck ∧ (readU32Be payload = 0#32 ∨ readU32Be (payload.drop 4) = 0#32)
  then .errFormat else .ok

/-- The tests of `pbns_frame_encode`, with the two capacities it compares. -/
def encodeChecks (frame : Frame) (payload : Octets) (rawScratchCap outputCap : ℕ) :
    Except Status Unit := do
  rejectIf (serviceIsValid frame.service = false) .errService
  rejectIf (messageTypeIsValid frame.type = false) .errMessageType
  rejectIf (frame.flags ≠ 0#8) .errFormat
  (validatePayloadLength frame.type payload.length controlPayloadMax dataPayloadMax).check
  (validateAckPayload frame.type payload).check
  let rawSize := headerSize + payload.length + trailerSize
  match cobsMaxEncodedSize rawSize with
  | .error _ => .error .errLimit
  | .ok cobsMax =>
    rejectIf (cobsMax = sizeMax) .errLimit
    rejectIf (rawScratchCap < rawSize ∨ outputCap < cobsMax + 1) .errLimit

/-- `pbns_frame_encode`: status, output memory and number of octets written.  The
COBS stage is given all but the last octet of the output, which the delimiter
needs. -/
def frameEncode (frame : Frame) (payload : Octets) (rawScratchCap : ℕ) (output : Octets) :
    Status × Octets × ℕ :=
  match encodeChecks frame payload rawScratchCap output.length with
  | .error status => (status, output, 0)
  | .ok _ =>
    match cobsEncode (rawRecord crc32c frame payload) (output.take (output.length - 1)) with
    | (.ok, mem, written) =>
      (.ok, (mem ++ output.drop (output.length - 1)).set written 0#8, written + 1)
    | (status, mem, _) => (status, mem ++ output.drop (output.length - 1), 0)

/-- `pbns_frame_decode` after COBS: the checks on the raw record, in the order of
the source. -/
def decodeRaw (limits : FrameLimits) (raw : Octets) : Except Status (Frame × Octets) := do
  rejectIf (raw.length < headerSize + trailerSize) .errFormat
  rejectIf (raw.take 4 ≠ frameMagic) .errFormat
  rejectIf (octetAt raw 4 ≠ protocolVersion) .errVersion
  rejectIf (readU32Be (raw.drop 32) ≠ crc32c (raw.take 32)) .errCrc
  let frame := frameOf raw
  rejectIf (serviceIsValid frame.service = false) .errService
  rejectIf (messageTypeIsValid frame.type = false) .errMessageType
  rejectIf (frame.flags ≠ 0#8) .errFormat
  let payloadLen := (readU32Be (raw.drop 28)).toNat
  (validatePayloadLength frame.type payloadLen
    limits.controlPayloadMax limits.dataPayloadMax).check
  rejectIf (raw.length ≠ headerSize + payloadLen + trailerSize) .errFormat
  rejectIf (readU32Be (raw.drop (raw.length - trailerSize))
    ≠ crc32c (raw.take (raw.length - trailerSize))) .errCrc
  let payload := (raw.drop headerSize).take payloadLen
  (validateAckPayload frame.type payload).check
  .ok (frame, payload)

/-- `pbns_frame_decode` of a record without its delimiter. -/
def frameDecode (record : Octets) (limits : FrameLimits) (scratchCap : ℕ) :
    Except Status (Frame × Octets) := do
  rejectIf (limitsAreValid limits = false) .errArgument
  rejectIf (record.length = sizeMax ∨ limits.encodedRecordMax < record.length + 1) .errLimit
  let raw ← cobsDecode record scratchCap
  decodeRaw limits raw

/-! What the codec leaves in the memory it is lent as scratch. -/

/-- `data` copied to the start of a memory. -/
def overwrite (memory data : Octets) : Octets := data ++ memory.drop data.length

/-- The scratch memory behind `pbns_frame_encode`. -/
def encodeScratch (frame : Frame) (payload : Octets) (outputCap : ℕ) (scratch : Octets) : Octets :=
  match encodeChecks frame payload scratch.length outputCap with
  | .error _ => scratch
  | .ok _ => overwrite scratch (rawRecord crc32c frame payload)

/-- What the loop of `pbns_cobs_decode` has written when it returns, successfully or not. -/
def cobsDecodeWritten (cap : ℕ) : ℕ → Octets → Octets → Octets
  | _, [], out => out
  | 0, _ :: _, out => out
  | fuel + 1, code :: s, out =>
    let run := s.take (code.toNat - 1)
    if code = 0#8 ∨ s.length < code.toNat - 1 ∨ cap - out.length < code.toNat - 1 then out
    else if 0#8 ∈ run then out ++ run.takeWhile (· ≠ 0#8)
    else if code ≠ 0xff#8 ∧ s.drop (code.toNat - 1) ≠ [] then
      if cap ≤ (out ++ run).length then out ++ run
      else cobsDecodeWritten cap fuel (s.drop (code.toNat - 1)) (out ++ run ++ [0#8])
    else cobsDecodeWritten cap fuel (s.drop (code.toNat - 1)) (out ++ run)

/-- The scratch memory behind `pbns_frame_decode`. -/
def decodeScratch (record : Octets) (limits : FrameLimits) (scratch : Octets) : Octets :=
  if limitsAreValid limits = false ∨ record.length = sizeMax ∨
      limits.encodedRecordMax < record.length + 1 then scratch
  else overwrite scratch (cobsDecodeWritten scratch.length record.length record [])

/-- The two payload checks together are the payload rule. -/
theorem payload_checks {type : MessageType} (htype : messageTypeIsValid type = true)
    (payload : Octets) (controlLimit dataLimit : ℕ) :
    (validatePayloadLength type payload.length controlLimit dataLimit = .ok ∧
      validateAckPayload type payload = .ok) ↔
      PayloadAllowed controlLimit dataLimit type payload := by
  rcases messageType_cases htype with rfl | rfl | rfl | rfl | rfl | rfl | rfl <;>
    simp [validatePayloadLength, validateAckPayload, PayloadAllowed, messageRequest, messageData,
      messageAck, messageCancel, messageComplete, messageResponse, messageError]

/-- What the encoder's tests let through. -/
theorem encodeChecks_eq_ok {outputCap : ℕ} :
    encodeChecks frame payload rawScratchCap outputCap = .ok () ↔
      Admissible defaultLimits frame payload ∧ 40 + payload.length ≤ rawScratchCap ∧
        40 + payload.length + (40 + payload.length) / 254 + 2 ≤ outputCap := by
  have hsize : headerSize + payload.length + trailerSize = 40 + payload.length := by
    simp only [headerSize, trailerSize]
    omega
  have hmax : Admissible defaultLimits frame payload →
      cobsMaxEncodedSize (40 + payload.length)
          = .ok (40 + payload.length + ((40 + payload.length) / 254 + 1)) ∧
        40 + payload.length + ((40 + payload.length) / 254 + 1) ≠ sizeMax := by
    intro h
    have hlen : payload.length ≤ 65536 := h.length_le rfl
    rw [cobsMaxEncodedSize, if_neg (by unfold sizeMax; omega)]
    exact ⟨rfl, by unfold sizeMax; omega⟩
  simp only [encodeChecks, rejectIf_bind_eq_ok, Status.check_bind_eq_ok, hsize,
    Bool.not_eq_false, ne_eq, not_not]
  constructor
  · rintro ⟨h1, h2, h3, h4, h5, h6⟩
    have hadm : Admissible defaultLimits frame payload :=
      ⟨h1, h2, h3, (payload_checks h2 payload _ _).mp ⟨h4, h5⟩⟩
    rw [(hmax hadm).1] at h6
    simp only [rejectIf_bind_eq_ok, rejectIf_eq_ok] at h6
    exact ⟨hadm, by omega⟩
  · rintro ⟨hadm, hraw, hout⟩
    have hpay := (payload_checks hadm.type payload _ _).mpr hadm.payload
    refine ⟨hadm.service, hadm.type, hadm.flags, hpay.1, hpay.2, ?_⟩
    rw [(hmax hadm).1]
    simp only [rejectIf_bind_eq_ok, rejectIf_eq_ok]
    exact ⟨(hmax hadm).2, by omega⟩

private theorem encodeChecks_ne_error_ok {outputCap : ℕ} :
    encodeChecks frame payload rawScratchCap outputCap ≠ .error .ok := by
  rcases hm : cobsMaxEncodedSize (headerSize + payload.length + trailerSize) with e | n <;>
    simp [encodeChecks, bind_eq_error, rejectIf_eq_error, Status.check_ne_error_ok, hm]

/-- The stuffed record of a frame and payload, without its delimiter. -/
def stuffed (frame : Frame) (payload : Octets) : Octets :=
  Cobs.encode (rawRecord crc32c frame payload)

theorem zero_notMem_stuffed (frame : Frame) (payload : Octets) : 0#8 ∉ stuffed frame payload :=
  Cobs.zero_notMem_encode _

theorem length_stuffed_le (frame : Frame) (payload : Octets) : (stuffed frame payload).length
    ≤ 40 + payload.length + (40 + payload.length) / 254 + 1 := by
  have h := Cobs.length_encode_le (rawRecord crc32c frame payload)
  rwa [rawRecord_length] at h

/-- **Encoding succeeds on admissible frames**: with room for the raw record and
the worst case of its stuffed form, the output starts with the stuffed record and
its delimiter, and is otherwise unchanged. -/
theorem frameEncode_of_admissible (h : Admissible defaultLimits frame payload)
    (hraw : 40 + payload.length ≤ rawScratchCap)
    (hout : 40 + payload.length + (40 + payload.length) / 254 + 2 ≤ output.length) :
    frameEncode frame payload rawScratchCap output
      = (.ok, stuffed frame payload ++ [0#8] ++ output.drop ((stuffed frame payload).length + 1),
        (stuffed frame payload).length + 1) := by
  have henc := length_stuffed_le frame payload
  have hcobs : cobsEncode (rawRecord crc32c frame payload) (output.take (output.length - 1))
      = (.ok, stuffed frame payload ++
          (output.take (output.length - 1)).drop (stuffed frame payload).length,
        (stuffed frame payload).length) :=
    cobsEncode_of_room (by rw [List.length_take]; exact Nat.le_trans henc (by omega))
  rw [frameEncode, encodeChecks_eq_ok.mpr ⟨h, hraw, hout⟩, hcobs]
  simp only [Prod.mk.injEq, and_true, true_and]
  -- the delimiter goes to the octet right behind the stuffed record
  obtain ⟨n, hn⟩ : ∃ n, n = (stuffed frame payload).length := ⟨_, rfl⟩
  have htail : (output.take (output.length - 1)).drop n ++ output.drop (output.length - 1)
      = output.drop n := by
    rw [← List.drop_append_of_le_length (by rw [List.length_take]; omega), List.take_append_drop]
  rw [← hn, List.append_assoc, htail, hn, List.set_append_right _ _ (Nat.le_refl _), Nat.sub_self,
    List.drop_eq_getElem_cons (by omega), List.set_cons_zero, List.append_assoc,
    List.singleton_append]

/-- Whatever the tests refuse leaves the output alone. -/
theorem frameEncode_of_refused (h : ¬ (Admissible defaultLimits frame payload ∧
      40 + payload.length ≤ rawScratchCap ∧
      40 + payload.length + (40 + payload.length) / 254 + 2 ≤ output.length)) :
    ∃ status, status ≠ .ok ∧ frameEncode frame payload rawScratchCap output = (status, output, 0) := by
  rcases hc : encodeChecks frame payload rawScratchCap output.length with status | u
  · refine ⟨status, ?_, by rw [frameEncode, hc]⟩
    rintro rfl
    exact encodeChecks_ne_error_ok hc
  · exact absurd (encodeChecks_eq_ok.mp hc) h

/-- **What the raw decoder accepts**: exactly the records of admissible frames. -/
theorem decodeRaw_eq_ok (hl : limitsAreValid limits = true) {raw : Octets} :
    decodeRaw limits raw = .ok (frame, payload) ↔
      raw = rawRecord crc32c frame payload ∧ Admissible limits frame payload := by
  simp only [decodeRaw, rejectIf_bind_eq_ok, Status.check_bind_eq_ok, Except.ok.injEq,
    Prod.mk.injEq, Bool.not_eq_false]
  simp only [ne_eq, Decidable.not_not, headerSize, trailerSize, Nat.not_lt]
  constructor
  · rintro ⟨h1, h2, h3, h4, h5, h6, h7, h8, h9, h10, h11, rfl, rfl⟩
    have hrec : IsRecord crc32c raw := ⟨h1, h2, h3, h4, by omega, h10⟩
    have hpay : (raw.drop 36).take (readU32Be (raw.drop 28)).toNat = payloadOf raw := by
      rw [payloadOf, hrec.length]
    have hplen : (payloadOf raw).length = (readU32Be (raw.drop 28)).toNat := by
      rw [payloadOf, List.length_take, List.length_drop]
      omega
    rw [hpay] at h11 ⊢
    rw [← hplen] at h8
    exact ⟨hrec.eq_rawRecord, h5, h6, h7, (payload_checks h6 _ _ _).mp ⟨h8, h11⟩⟩
  · rintro ⟨rfl, hadm⟩
    have hlen := hadm.length_le hl
    obtain ⟨hrec, hframe, hpayload⟩ := isRecord_rawRecord crc32c frame
      (show payload.length < 2 ^ 32 by omega)
    have hchecks := (payload_checks hadm.type payload _ _).mpr hadm.payload
    have hn : (readU32Be ((rawRecord crc32c frame payload).drop 28)).toNat = payload.length := by
      rw [hrec.length, rawRecord_length, Nat.add_sub_cancel_left]
    rw [payloadOf, rawRecord_length, Nat.add_sub_cancel_left] at hpayload
    rw [hframe, hn, hpayload]
    exact ⟨hrec.long, hrec.magic, hrec.version, hrec.headerCrc, hadm.service, hadm.type,
      hadm.flags, hchecks.1, by rw [rawRecord_length]; omega, hrec.recordCrc, hchecks.2, rfl, rfl⟩

/-- **What the frame decoder accepts.** -/
theorem frameDecode_eq_ok {record : Octets} :
    frameDecode record limits scratchCap = .ok (frame, payload) ↔
      limitsAreValid limits = true ∧ record.length + 1 ≤ limits.encodedRecordMax ∧
      cobsDecode record scratchCap = .ok (rawRecord crc32c frame payload) ∧
      Admissible limits frame payload := by
  simp only [frameDecode, rejectIf_bind_eq_ok, Bool.not_eq_false]
  constructor
  · rintro ⟨hl, hlen, h⟩
    obtain ⟨raw, hraw, hdec⟩ := bind_eq_ok.mp h
    obtain ⟨rfl, hadm⟩ := (decodeRaw_eq_ok hl).mp hdec
    exact ⟨hl, by omega, hraw, hadm⟩
  · rintro ⟨hl, hlen, hraw, hadm⟩
    obtain ⟨-, -, hmax⟩ := limitsAreValid_iff.mp hl
    refine ⟨hl, by unfold sizeMax; omega, ?_⟩
    rw [hraw, bind_ok]
    exact (decodeRaw_eq_ok hl).mpr ⟨rfl, hadm⟩

private theorem cobsDecodeLoop_ne_error_ok {fuel : ℕ} {s out : Octets} :
    cobsDecodeLoop cap fuel s out ≠ .error .ok := by
  fun_induction cobsDecodeLoop cap fuel s out <;> simp_all

/-- A refused record is reported as an error. -/
theorem frameDecode_ne_error_ok {record : Octets} :
    frameDecode record limits scratchCap ≠ .error .ok := by
  have hcobs : cobsDecode record scratchCap ≠ .error .ok := by
    rw [cobsDecode]
    split_ifs
    · simp
    · exact cobsDecodeLoop_ne_error_ok
  simp [frameDecode, decodeRaw, bind_eq_error, rejectIf_eq_error, Status.check_ne_error_ok, hcobs]

/-- A stuffed record decodes to what it was made from. -/
theorem frameDecode_stuffed (hl : limitsAreValid limits = true)
    (h : Admissible limits frame payload)
    (hlen : (stuffed frame payload).length + 1 ≤ limits.encodedRecordMax)
    (hcap : 40 + payload.length ≤ scratchCap) :
    frameDecode (stuffed frame payload) limits scratchCap = .ok (frame, payload) :=
  frameDecode_eq_ok.mpr ⟨hl, hlen, cobsDecode_encode (by rwa [rawRecord_length]), h⟩

end Pbns
