/-
The gateway's side of an artifact transfer: the stream of a connection
(`gateway/internal/server/server.go`), the stream sender
(`gateway/internal/recovery/stream.go`) and the loop of `handleArtifact`
(`gateway/internal/recovery/handler.go`) without an evaluation plan.

The loop is cut where it waits: at its head (`Handler.turn`), inside a write, and
inside a read, which ends when the buffered reader has found a delimiter
(`Handler.acknowledge`).

`StreamSender.Sent s a` is the state of a sender that has given out `s` frames and
taken `a` acknowledgements; `sender_keeps_window` is about any use of a sender.
-/
import Pbns.RecoveryStream
import Pbns.WireCodec

namespace Pbns.Server

open Octets Guard

/-- What `Send` and `Receive` can return, the connection's own errors apart. -/
inductive Error
  | streamCorrelation
  | streamSequenceOverflow
  | bufferFull
  | wire (err : Wire.Error)
  deriving DecidableEq

/-- `server.Stream`, without its connection, timeouts and reader. -/
structure Stream where
  validator : Wire.Decoder
  service : ServiceId
  requestId : RequestId
  outboundSequence : BitVec 32
  outboundExhausted : Bool

/-- The stream `serveConnection` makes for a request. -/
def newStream (decoder : Wire.Decoder) (request : Frame) : Stream :=
  ⟨decoder, request.service, request.requestId, 0#32, false⟩

def ofWire {α : Type} : Except Wire.Error α → Except Error α
  | .ok a => .ok a
  | .error err => .error (.wire err)

def Stream.validateOutboundFrame (stream : Stream) (frame : Wire.Frame) : Except Error Unit :=
  rejectIf (frame.service ≠ stream.service ∨ frame.requestId ≠ stream.requestId ∨
    frame.type = messageRequest) .streamCorrelation

/-- The bookkeeping of `writeOutboundFrameLocked` behind a write. -/
def Stream.sent (stream : Stream) (frame : Wire.Frame) : Stream :=
  if frame.sequence = uint32Max - 1#32 then { stream with outboundExhausted := true }
  else { stream with outboundSequence := frame.sequence + 1#32 }

/-- `Send`: the octets handed to `writeAll`, and the stream once they are written. -/
def Stream.send (stream : Stream) (frame : Wire.Frame) : Except Error (Octets × Stream) := do
  stream.validateOutboundFrame frame
  let encoded ← ofWire (Wire.encode frame)
  let _ ← ofWire (Wire.decode stream.validator encoded)
  rejectIf (stream.outboundExhausted ∨ frame.sequence = uint32Max) .streamSequenceOverflow
  .ok (encoded, stream.sent frame)

/-- `bufio.Reader.ReadSlice(0)` on the octets in its buffer: a record with its
delimiter and what is left behind it; `none` asks for more. -/
def readSlice (size : ℕ) (buffered : Octets) : Option (Except Error (Octets × Octets)) :=
  if 0#8 ∈ buffered then
    let record := buffered.takeWhile (· ≠ 0#8) ++ [0#8]
    some (.ok (record, buffered.drop record.length))
  else if size ≤ buffered.length then some (.error .bufferFull)
  else none

/-- The size `bufio.NewReaderSize` gives the buffer. -/
def Stream.bufferSize (stream : Stream) : ℕ := max 16 stream.validator.limits.encodedRecordMax.toNat

/-- `Receive` of a record that has been read. -/
def Stream.receive (stream : Stream) (record : Octets) : Except Error Wire.Frame := do
  let frame ← ofWire (Wire.decode stream.validator record)
  rejectIf (frame.service ≠ stream.service ∨ frame.requestId ≠ stream.requestId ∨
    (frame.type ≠ messageAck ∧ frame.type ≠ messageCancel)) .streamCorrelation
  .ok frame

/-- The record in front of the first delimiter is found. -/
theorem readSlice_record (size : ℕ) {t : Octets} (ht : 0#8 ∉ t) (rest : Octets) :
    readSlice size (t ++ 0#8 :: rest) = some (.ok (t ++ [0#8], rest)) := by
  have hne : ∀ x ∈ t, decide (x ≠ 0#8) = true := by
    intro x hx
    refine decide_eq_true ?_
    rintro rfl
    exact ht hx
  have htake : (t ++ 0#8 :: rest).takeWhile (· ≠ 0#8) = t := by
    rw [List.takeWhile_append_of_pos hne]
    simp
  rw [readSlice, if_pos (by simp), htake]
  simp

theorem readSlice_more {size : ℕ} {t : Octets} (ht : 0#8 ∉ t) (hlen : t.length < size) :
    readSlice size t = none := by
  rw [readSlice, if_neg ht, if_neg (by omega)]

/-- An admissible frame of the stream is sent. -/
theorem Stream.send_of_admissible {stream : Stream} {limits : FrameLimits} (frame : Wire.Frame)
    (hl : limitsAreValid limits = true) (hv : stream.validator = ⟨Wire.limitsOf limits⟩)
    (hadm : Admissible limits frame.toFrame frame.payload)
    (hlen : (stuffed frame.toFrame frame.payload).length + 1 ≤ limits.encodedRecordMax)
    (hs : frame.service = stream.service) (hid : frame.requestId = stream.requestId)
    (ht : frame.type ≠ messageRequest) (hseq : frame.sequence.toNat < 2 ^ 32 - 2)
    (hopen : stream.outboundExhausted = false) :
    stream.send frame = .ok (stuffed frame.toFrame frame.payload ++ [0#8],
      { stream with outboundSequence := frame.sequence + 1#32 }) := by
  have henc := Wire.encode_eq_ok.mpr ⟨hadm.default hl, rfl⟩
  have hdec := Wire.decode_stuffed hl hadm hlen
  have hmax : frame.sequence ≠ uint32Max ∧ frame.sequence ≠ uint32Max - 1#32 := by
    constructor <;> rintro heq <;> rw [heq] at hseq <;> exact absurd hseq (by decide)
  rw [Stream.send, Stream.validateOutboundFrame, rejectIf_bind_of_not (by simp [hs, hid, ht]), henc]
  rw [← hv] at hdec
  simp only [ofWire, bind_ok, hdec]
  rw [rejectIf_bind_of_not (by simp [hopen, hmax.1]), Stream.sent, if_neg hmax.2]

/-- An acknowledgement of the stream is received. -/
theorem Stream.receive_of_admissible {stream : Stream} {limits : FrameLimits} (frame : Wire.Frame)
    (hl : limitsAreValid limits = true) (hv : stream.validator = ⟨Wire.limitsOf limits⟩)
    (hadm : Admissible limits frame.toFrame frame.payload)
    (hlen : (stuffed frame.toFrame frame.payload).length + 1 ≤ limits.encodedRecordMax)
    (hs : frame.service = stream.service) (hid : frame.requestId = stream.requestId)
    (ht : frame.type = messageAck) :
    stream.receive (stuffed frame.toFrame frame.payload ++ [0#8]) = .ok frame := by
  rw [Stream.receive, hv, Wire.decode_stuffed hl hadm hlen]
  simp only [ofWire, bind_ok]
  rw [rejectIf_bind_of_not (by simp [hs, hid, ht])]

end Pbns.Server

namespace Pbns.Recovery

open Octets Guard

inductive StreamError
  | stream
  | backpressure
  | streamIo
  | acknowledgement
  deriving DecidableEq

/-- `ReadAt` with the octets it reads for a length and an offset; `none` is an error. -/
abbrev ReaderAt := ℕ → ℕ → Option Octets

/-- `StreamSender`; its fixed buffer is part of the frames it gives out. -/
structure StreamSender where
  reader : ReaderAt
  requestId : RequestId
  size : ℕ
  offset : ℕ
  nextSequence : BitVec 32
  nextAck : BitVec 32
  sinceAck : BitVec 32
  awaitingAck : Bool
  complete : Bool
  failed : Bool

def ackWindow : BitVec 32 := 8#32

def maximumImageSize : ℕ := 268435456

def newStreamSender (reader : ReaderAt) (size : ℕ) (requestId : RequestId) :
    Except StreamError StreamSender := do
  rejectIf (size = 0 ∨ maximumImageSize < size ∨ allZero requestId.toList) .stream
  .ok ⟨reader, requestId, size, 0, 0#32, 0#32, 0#32, false, false, false⟩

/-- The sender behind a DATA frame of `length` octets. -/
def StreamSender.advance (sender : StreamSender) (length : ℕ) : StreamSender :=
  { sender with
    offset := sender.offset + length
    nextSequence := sender.nextSequence + 1#32
    sinceAck := sender.sinceAck + 1#32
    awaitingAck := sender.awaitingAck || sender.sinceAck + 1#32 == ackWindow }

/-- `Next`. -/
def StreamSender.next (sender : StreamSender) : Except StreamError Wire.Frame × StreamSender :=
  if sender.failed ∨ sender.complete then (.error .stream, sender)
  else if sender.awaitingAck then (.error .backpressure, sender)
  else if sender.offset = sender.size then
    (.ok ⟨⟨serviceRecoveryArtifact, messageComplete, 0#8, sender.requestId, sender.nextSequence⟩, []⟩,
      { sender with complete := true })
  else
    let length := min dataPayloadMax (sender.size - sender.offset)
    match sender.reader length sender.offset with
    | some chunk =>
      if chunk.length ≠ length then (.error .streamIo, { sender with failed := true })
      else
        (.ok ⟨⟨serviceRecoveryArtifact, messageData, 0#8, sender.requestId, sender.nextSequence⟩,
          chunk⟩, sender.advance length)
    | none => (.error .streamIo, { sender with failed := true })

/-- `AcceptACK`. -/
def StreamSender.acceptAck (sender : StreamSender) (frame : Wire.Frame) :
    Except StreamError Unit × StreamSender :=
  if sender.failed ∨ sender.complete ∨ sender.awaitingAck = false ∨
      frame.service ≠ serviceRecoveryArtifact ∨ frame.type ≠ messageAck ∨ frame.flags ≠ 0#8 ∨
      frame.requestId ≠ sender.requestId ∨ frame.sequence ≠ sender.nextAck ∨
      frame.payload.length ≠ ackPayloadSize ∨
      readU32Be (frame.payload.take 4) ≠ sender.nextSequence ∨
      readU32Be (frame.payload.drop 4) ≠ ackWindow then
    (.error .acknowledgement, { sender with failed := true })
  else
    (.ok (), { sender with
      nextAck := sender.nextAck + 1#32, sinceAck := 0#32, awaitingAck := false })

/-- `Cancel`. -/
def StreamSender.cancel (sender : StreamSender) : StreamSender := { sender with failed := true }

/-! ### The loop of the handler -/

def statusFormat : ℕ := 3
def statusTransport : ℕ := 12
def statusIO : ℕ := 21

/-- What `handleArtifact` returns besides `nil`. -/
inductive HandlerError
  | protocol (code : ℕ) (detail : String)
  | stream (err : Server.Error)
  deriving DecidableEq

/-- Where the handler is: at the head of its loop, inside `stream.Receive`, inside
the write of a frame (of the last one or not), or done. -/
inductive Phase
  | looping
  | receiving
  | writing (last : Bool)
  | returned (err : Option HandlerError)
  deriving DecidableEq

/-- A running `handleArtifact`: `buffered` is in the connection's reader, `unwritten`
still has to be written. -/
structure Handler where
  sender : StreamSender
  stream : Server.Stream
  buffered : Octets
  unwritten : Octets
  phase : Phase

def Handler.fail (h : Handler) (err : HandlerError) : Handler :=
  { h with sender := h.sender.cancel, phase := .returned (some err) }

/-- From the head of the loop to its next wait; `expired` is the state of the transfer
context, `unclosed` whether closing the artifact fails. -/
def Handler.turn (expired unclosed : Bool) (h : Handler) : Handler :=
  if expired then h.fail (.protocol statusTransport "recovery transfer expired")
  else
    match h.sender.next with
    | (.error .backpressure, sender) => { h with sender, phase := .receiving }
    | (.error _, sender) =>
      { h with sender }.fail (.protocol statusIO "recovery artifact read failed")
    | (.ok outgoing, sender) =>
      if outgoing.type = messageComplete ∧ unclosed then
        { h with
          sender, phase := .returned (some (.protocol statusIO "recovery artifact close failed")) }
      else
        match h.stream.send outgoing with
        | .error err => { h with sender }.fail (.stream err)
        | .ok (encoded, stream) =>
          { h with
            sender, stream, unwritten := encoded
            phase := .writing (outgoing.type == messageComplete) }

/-- The end of a write. -/
def Handler.written (last : Bool) (h : Handler) : Handler :=
  { h with phase := if last then .returned none else .looping }

/-- The end of a read: back to the head of the loop with a valid acknowledgement. -/
def Handler.acknowledge (result : Except Server.Error (Octets × Octets)) (h : Handler) : Handler :=
  let received := result.bind fun (record, rest) => (h.stream.receive record).map (·, rest)
  match received with
  | .error .streamCorrelation =>
    h.fail (.protocol statusFormat "invalid recovery acknowledgement")
  | .error _ => h.fail (.protocol statusTransport "recovery acknowledgement unavailable")
  | .ok (ack, rest) =>
    let h := { h with buffered := rest }
    if ack.type = messageCancel then
      h.fail (.protocol statusTransport "recovery transfer cancelled")
    else
      match h.sender.acceptAck ack with
      | (.error _, sender) =>
        { h with
          sender
          phase := .returned (some (.protocol statusFormat "invalid recovery acknowledgement")) }
      | (.ok (), sender) => { h with sender, phase := .looping }

/-! ### The frames of a transfer -/

section Sender

variable {limits : FrameLimits} {requestId : RequestId} {image : Octets} {s a : ℕ}
  {sender : StreamSender}

/-- The reader reads from the image, whatever part of it is asked for. -/
def Reads (reader : ReaderAt) (image : Octets) : Prop :=
  ∀ length offset, offset + length ≤ image.length →
    reader length offset = some ((image.drop offset).take length)

/-- The limits leave room for the frames of the transfer. -/
structure Fits (limits : FrameLimits) (size : ℕ) : Prop where
  valid : limitsAreValid limits = true
  data : min 16384 size ≤ limits.dataPayloadMax
  record : 40 + min 16384 size + (40 + min 16384 size) / 254 + 2 ≤ limits.encodedRecordMax

/-- The payload of the frame with number `r`: behind the last chunk there is none. -/
theorem chunk_eq_nil {r : ℕ} (h : chunkCount image.length ≤ r) : chunk r image = [] := by
  have hge : image.length ≤ 16384 * r := by
    by_contra hlt
    exact absurd (lt_chunkCount_iff.mpr (Nat.not_le.mp hlt)) (by omega)
  rw [← List.length_eq_zero_iff, length_chunk]
  omega

/-- Every frame of a transfer is admissible. -/
theorem Fits.transfer (h : Fits limits image.length) (requestId : RequestId) (r : ℕ) :
    Admissible limits (transferFrame requestId image.length r) (chunk r image) := by
  by_cases hr : r < chunkCount image.length
  · have htype := transferFrame_data requestId hr
    have hdata := h.data
    have hlen := length_chunk r image
    refine ⟨rfl, by rw [htype]; rfl, rfl, ?_⟩
    rw [htype, PayloadAllowed, if_pos rfl]
    omega
  · have htype := transferFrame_complete requestId (Nat.not_lt.mp hr)
    refine ⟨rfl, by rw [htype]; rfl, rfl, ?_⟩
    rw [htype, PayloadAllowed, if_neg (by decide), if_neg (by decide), if_pos (by decide),
      chunk_eq_nil (Nat.not_lt.mp hr)]
    rfl

/-- The octets of the frame with number `r`, without the delimiter. -/
def transferRecord (requestId : RequestId) (image : Octets) (r : ℕ) : Octets :=
  stuffed (transferFrame requestId image.length r) (chunk r image)

theorem length_transferRecord (requestId : RequestId) (image : Octets) (r : ℕ) :
    (transferRecord requestId image r).length
      ≤ 40 + min 16384 image.length + (40 + min 16384 image.length) / 254 + 1 := by
  have hst := length_stuffed_le (transferFrame requestId image.length r) (chunk r image)
  have hlen := length_chunk r image
  have hmono : (40 + (chunk r image).length) / 254 ≤ (40 + min 16384 image.length) / 254 :=
    Nat.div_le_div_right (by omega)
  rw [transferRecord]
  omega

/-- The records from number `a` up to number `b`, each with its delimiter. -/
def recordsBetween (record : ℕ → Octets) (a b : ℕ) : Octets :=
  (List.range' a (b - a)).flatMap fun i => record i ++ [0#8]

theorem recordsBetween_of_le (record : ℕ → Octets) {a b : ℕ} (h : b ≤ a) :
    recordsBetween record a b = [] := by
  rw [recordsBetween, Nat.sub_eq_zero_of_le h]
  rfl

theorem recordsBetween_succ (record : ℕ → Octets) {a b : ℕ} (h : a ≤ b) :
    recordsBetween record a (b + 1) = recordsBetween record a b ++ (record b ++ [0#8]) := by
  rw [recordsBetween, recordsBetween, Nat.succ_sub h, List.range'_concat, List.flatMap_append,
    Nat.one_mul, Nat.add_sub_cancel' h]
  simp

theorem recordsBetween_append (record : ℕ → Octets) {a b c : ℕ} (h : a ≤ b) (h' : b ≤ c) :
    recordsBetween record a b ++ recordsBetween record b c = recordsBetween record a c := by
  rw [recordsBetween, recordsBetween, recordsBetween, ← List.flatMap_append,
    show c - a = (b - a) + (c - b) by omega]
  nth_rewrite 2 [show b = a + (b - a) by omega]
  rw [List.range'_append_1]

theorem recordsBetween_cons (record : ℕ → Octets) {a b : ℕ} (h : a < b) :
    recordsBetween record a b = record a ++ 0#8 :: recordsBetween record (a + 1) b := by
  rw [recordsBetween, recordsBetween, show b - a = b - (a + 1) + 1 by omega, List.range'_succ,
    List.flatMap_cons]
  simp

/-- Acknowledgement number `i` confirms `8 * (i + 1)` chunks. -/
def ackFrame (requestId : RequestId) (i : ℕ) : Wire.Frame :=
  ⟨⟨serviceRecoveryArtifact, messageAck, 0#8, requestId, BitVec.ofNat 32 i⟩,
    writeU32Be (BitVec.ofNat 32 (8 * (i + 1))) ++ writeU32Be ackWindow⟩

def ackRecord (requestId : RequestId) (i : ℕ) : Octets :=
  stuffed (ackFrame requestId i).toFrame (ackFrame requestId i).payload

theorem length_ackFrame_payload (requestId : RequestId) (i : ℕ) :
    (ackFrame requestId i).payload.length = 8 := rfl

theorem length_ackRecord (requestId : RequestId) (i : ℕ) : (ackRecord requestId i).length ≤ 49 := by
  have hst := length_stuffed_le (ackFrame requestId i).toFrame (ackFrame requestId i).payload
  rwa [length_ackFrame_payload] at hst

/-- An acknowledgement is admissible whatever the limits. -/
theorem ackFrame_admissible {i : ℕ} (hi : 8 * (i + 1) ≤ 16384) :
    Admissible limits (ackFrame requestId i).toFrame (ackFrame requestId i).payload := by
  refine ⟨by rfl, by rfl, rfl, ?_⟩
  change PayloadAllowed _ _ messageAck _
  rw [PayloadAllowed, if_neg (by decide), if_pos rfl]
  refine ⟨rfl, ?_, ?_⟩
  · rw [ackFrame, readU32Be_writeU32Be]
    intro h0
    have := congrArg BitVec.toNat h0
    rw [BitVec.toNat_ofNat, Nat.mod_eq_of_lt (by omega)] at this
    exact absurd this (by simp)
  · rw [ackFrame, List.drop_left' (writeU32Be_length _), readU32Be_self]
    decide

/-! ### The sender -/

/-- The sender has given out `s` frames, the last of them possibly COMPLETE, and
taken `a` acknowledgements. -/
structure StreamSender.Sent (requestId : RequestId) (image : Octets) (s a : ℕ)
    (sender : StreamSender) : Prop where
  reader : Reads sender.reader image
  requestId : sender.requestId = requestId
  size : sender.size = image.length
  offset : sender.offset = min (16384 * s) image.length
  nextSequence : sender.nextSequence = BitVec.ofNat 32 (min s (chunkCount image.length))
  nextAck : sender.nextAck = BitVec.ofNat 32 a
  sinceAck : sender.sinceAck = BitVec.ofNat 32 (min s (chunkCount image.length) - 8 * a)
  awaitingAck : sender.awaitingAck = decide (min s (chunkCount image.length) = 8 * a + 8)
  complete : sender.complete = decide (s = chunkCount image.length + 1)
  notFailed : sender.failed = false
  acked : 8 * a ≤ min s (chunkCount image.length)
  window : min s (chunkCount image.length) ≤ 8 * a + 8
  ended : s = chunkCount image.length + 1 → chunkCount image.length < 8 * a + 8
  bounded : s ≤ chunkCount image.length + 1

theorem newStreamSender_ok {reader : ReaderAt} (hreads : Reads reader image)
    (h : newStreamSender reader image.length requestId = .ok sender) :
    sender.Sent requestId image 0 0 := by
  simp only [newStreamSender, rejectIf_bind_eq_ok, Except.ok.injEq] at h
  obtain ⟨-, rfl⟩ := h
  exact ⟨hreads, rfl, rfl, by simp, by simp, rfl, by simp, by simp, by simp, rfl, by simp, by simp,
    by simp, by simp⟩

/-- A full window is backpressure. -/
theorem StreamSender.Sent.next_full (h : sender.Sent requestId image s a)
    (hs : s ≤ chunkCount image.length) (hfull : s = 8 * a + 8) :
    sender.next = (.error .backpressure, sender) := by
  have hc := h.complete
  have hw := h.awaitingAck
  rw [decide_eq_false (by omega)] at hc
  rw [decide_eq_true (by omega)] at hw
  rw [StreamSender.next, if_neg (by simp [hc, h.notFailed]), if_pos hw]

variable (hmax : image.length ≤ recoveryImageMax)

include hmax

/-- Counting one more chunk. -/
theorem StreamSender.Sent.advance (h : sender.Sent requestId image s a)
    (hs : s < chunkCount image.length) (hopen : s < 8 * a + 8) :
    (sender.advance (chunk s image).length).Sent requestId image (s + 1) a := by
  have hcount := chunkCount_le hmax
  have hleft := lt_chunkCount_iff.mp hs
  have hacked := h.acked
  have hmin : min s (chunkCount image.length) = s := Nat.min_eq_left (by omega)
  have hmin' : min (s + 1) (chunkCount image.length) = s + 1 := Nat.min_eq_left hs
  have hsince : sender.sinceAck + 1#32 = BitVec.ofNat 32 (s + 1 - 8 * a) := by
    rw [h.sinceAck, hmin, show s + 1 - 8 * a = s - 8 * a + 1 by omega, BitVec.ofNat_add]
  have hfull : sender.sinceAck + 1#32 = ackWindow ↔ s + 1 = 8 * a + 8 := by
    rw [hsince, ackWindow, ← BitVec.toNat_inj, BitVec.toNat_ofNat, BitVec.toNat_ofNat,
      Nat.mod_eq_of_lt (by omega)]
    omega
  have hw := h.awaitingAck
  rw [decide_eq_false (by omega)] at hw
  refine ⟨h.reader, h.requestId, h.size, ?_, ?_, h.nextAck, ?_, ?_, ?_, h.notFailed, by omega,
    by omega, by omega, by omega⟩
  · simp only [StreamSender.advance, length_chunk, h.offset]
    omega
  · rw [hmin', BitVec.ofNat_add, ← hmin, ← h.nextSequence]
    rfl
  · rw [hmin']
    exact hsince
  · simp only [StreamSender.advance, hw, Bool.false_or, hmin', ← hfull]
    exact beq_eq_decide _ _
  · rw [decide_eq_false (by omega)]
    exact h.complete.trans (decide_eq_false (by omega))

/-- **The next frame** goes out while the window is open. -/
theorem StreamSender.Sent.next_open (h : sender.Sent requestId image s a)
    (hs : s ≤ chunkCount image.length) (hopen : s < 8 * a + 8) : ∃ sender',
      sender.next = (.ok ⟨transferFrame requestId image.length s, chunk s image⟩, sender') ∧
        sender'.Sent requestId image (s + 1) a := by
  have hcount := chunkCount_le hmax
  have hacked := h.acked
  have hc := h.complete
  have hw := h.awaitingAck
  have hseq := h.nextSequence
  rw [decide_eq_false (by omega)] at hc
  rw [decide_eq_false (by omega)] at hw
  rw [Nat.min_eq_left hs] at hseq
  rw [StreamSender.next, if_neg (by simp [hc, h.notFailed]), if_neg (by simp [hw])]
  rcases Nat.lt_or_eq_of_le hs with hlt | rfl
  · -- a chunk is left
    have hleft := lt_chunkCount_iff.mp hlt
    have hoff : sender.offset = 16384 * s := by rw [h.offset]; omega
    have hlen : (chunk s image).length = min dataPayloadMax (sender.size - sender.offset) := by
      rw [length_chunk, hoff, h.size, dataPayloadMax]
    have hread : sender.reader (chunk s image).length sender.offset = some (chunk s image) := by
      rw [length_chunk, hoff, h.reader _ _ (by omega), ← List.length_drop, ← List.take_eq_take_min]
      rfl
    rw [if_neg (by rw [hoff, h.size]; omega)]
    simp only [← hlen, hread, ne_eq, not_true_eq_false, if_false]
    refine ⟨_, ?_, h.advance hmax hlt hopen⟩
    rw [transferFrame, if_pos hlt, h.requestId, hseq]
  · -- everything is out
    have hcover : image.length ≤ 16384 * chunkCount image.length :=
      Chunks.le_mul_count (by decide) image.length
    have hframe : (⟨⟨serviceRecoveryArtifact, messageComplete, 0#8, sender.requestId,
        sender.nextSequence⟩, []⟩ : Wire.Frame) = ⟨transferFrame requestId image.length
          (chunkCount image.length), chunk (chunkCount image.length) image⟩ := by
      rw [chunk_eq_nil (Nat.le_refl _), transferFrame, if_neg (Nat.lt_irrefl _), h.requestId, hseq]
    rw [if_pos (by rw [h.offset, h.size]; omega), hframe]
    refine ⟨{ sender with complete := true }, rfl, ⟨h.reader, h.requestId, h.size, ?_, ?_, h.nextAck,
      ?_, ?_, ?_, h.notFailed, by omega, by omega, by omega, by omega⟩⟩
    · simp only [h.offset]
      omega
    · simp [hseq]
    · simp [h.sinceAck]
    · simp only [hw]
      exact (decide_eq_false (by omega)).symm
    · simp

omit hmax in
/-- **The acknowledgement of a full window** opens it again. -/
theorem StreamSender.Sent.acceptAck (h : sender.Sent requestId image s a)
    (hs : s ≤ chunkCount image.length) (hfull : s = 8 * a + 8) : ∃ sender',
      sender.acceptAck (ackFrame requestId a) = (.ok (), sender') ∧
        sender'.Sent requestId image s (a + 1) := by
  have hc := h.complete
  have hw := h.awaitingAck
  have hseq := h.nextSequence
  rw [decide_eq_false (by omega)] at hc
  rw [decide_eq_true (by omega)] at hw
  rw [Nat.min_eq_left hs] at hseq
  have hnext : readU32Be ((ackFrame requestId a).payload.take 4) = sender.nextSequence := by
    rw [hseq, hfull]
    exact readU32Be_self _
  have hwindow : readU32Be ((ackFrame requestId a).payload.drop 4) = ackWindow := readU32Be_self _
  refine ⟨_, if_neg ?_, { h with
    nextAck := ?_, sinceAck := ?_, awaitingAck := ?_, complete := ?_, acked := by omega
    window := by omega, ended := by omega }⟩
  · rw [hnext, hwindow, hc, hw, h.notFailed, h.requestId, h.nextAck]
    simp [ackFrame, ackPayloadSize]
  · exact (congrArg (· + 1#32) h.nextAck).trans (BitVec.ofNat_add a 1).symm
  · rw [show min s (chunkCount image.length) - 8 * (a + 1) = 0 by omega]
  · exact (decide_eq_false (by omega)).symm
  · exact h.complete

/-! ### The handler -/

/-- What the phase of a healthy handler says about its progress. -/
def Handler.PhaseOk (size s a : ℕ) (h : Handler) : Prop :=
  match h.phase with
  | .looping => s ≤ chunkCount size ∧ h.unwritten = []
  | .receiving => s ≤ chunkCount size ∧ s = 8 * a + 8 ∧ h.unwritten = []
  | .writing last => last = decide (s = chunkCount size + 1)
  | .returned err => err = none ∧ s = chunkCount size + 1 ∧ h.unwritten = []

/-- A handler that has given out `s` frames and taken `a` acknowledgements. -/
structure Handler.Serving (limits : FrameLimits) (requestId : RequestId) (image : Octets)
    (s a : ℕ) (h : Handler) : Prop where
  sender : h.sender.Sent requestId image s a
  validator : h.stream.validator = ⟨Wire.limitsOf limits⟩
  service : h.stream.service = serviceRecoveryArtifact
  requestId : h.stream.requestId = requestId
  notExhausted : h.stream.outboundExhausted = false
  phase : h.PhaseOk image.length s a

variable {h : Handler}

/-- **At the head of the loop** the handler starts to wait when the window is full,
and to write the next frame when it is not. -/
theorem Handler.Serving.turn (hl : Fits limits image.length)
    (hh : h.Serving limits requestId image s a) (hp : h.phase = .looping) :
    s ≤ chunkCount image.length ∧
      ((s = 8 * a + 8 ∧ h.turn false false = { h with phase := .receiving }) ∨
       ∃ h', h.turn false false = h' ∧ h'.Serving limits requestId image (s + 1) a ∧
        h'.phase = .writing (decide (s = chunkCount image.length)) ∧ h'.buffered = h.buffered ∧
        h'.unwritten = transferRecord requestId image s ++ [0#8]) := by
  have hphase := hh.phase
  rw [Handler.PhaseOk, hp] at hphase
  obtain ⟨hs, -⟩ := hphase
  have hwindow := hh.sender.window
  have hcount := chunkCount_le hmax
  refine ⟨hs, ?_⟩
  by_cases hfull : s = 8 * a + 8
  · left
    refine ⟨hfull, ?_⟩
    rw [Handler.turn, hh.sender.next_full hs hfull]
    rfl
  · right
    obtain ⟨sender', hnext, hsent⟩ := hh.sender.next_open hmax hs (by omega)
    have hrecord := length_transferRecord requestId image s
    have hroom := hl.record
    have htype : (transferFrame requestId image.length s).type ≠ messageRequest := by
      rcases Nat.lt_or_ge s (chunkCount image.length) with hlt | hge
      · rw [transferFrame_data requestId hlt]
        decide
      · rw [transferFrame_complete requestId hge]
        decide
    have hlast : ((transferFrame requestId image.length s).type == messageComplete)
        = decide (s = chunkCount image.length) := by
      rcases Nat.lt_or_eq_of_le hs with hlt | heq
      · rw [transferFrame_data requestId hlt, decide_eq_false (by omega)]
        rfl
      · rw [transferFrame_complete requestId (Nat.le_of_eq heq.symm), decide_eq_true heq]
        rfl
    have hsend := Server.Stream.send_of_admissible
      ⟨transferFrame requestId image.length s, chunk s image⟩ hl.valid hh.validator
      (hl.transfer requestId s) (by simp only [transferRecord] at hrecord ⊢; omega) hh.service.symm
      hh.requestId.symm htype
      (by simp only [transferFrame, BitVec.toNat_ofNat]; omega) hh.notExhausted
    refine ⟨_, rfl, ?_⟩
    rw [Handler.turn, hnext]
    simp only [Bool.false_eq_true, and_false, if_false, hsend, hlast]
    refine ⟨{ hh with sender := hsent, phase := ?_ }, trivial, trivial, rfl⟩
    simp [Handler.PhaseOk]

/-- **An acknowledgement** brings a waiting handler back to its loop. -/
theorem Handler.Serving.acknowledge (hl : Fits limits image.length)
    (hh : h.Serving limits requestId image s a) (hp : h.phase = .receiving) (rest : Octets) :
    (h.acknowledge (.ok (ackRecord requestId a ++ [0#8], rest))).Serving limits requestId image s
        (a + 1) ∧
      (h.acknowledge (.ok (ackRecord requestId a ++ [0#8], rest))).phase = .looping ∧
      (h.acknowledge (.ok (ackRecord requestId a ++ [0#8], rest))).buffered = rest ∧
      (h.acknowledge (.ok (ackRecord requestId a ++ [0#8], rest))).unwritten = [] := by
  have hphase := hh.phase
  rw [Handler.PhaseOk, hp] at hphase
  obtain ⟨hs, hfull, hdone⟩ := hphase
  have hcount := chunkCount_le hmax
  have hrecord := length_ackRecord requestId a
  have hroom := hl.record
  -- eight chunks are out, so all frames are full ones and an acknowledgement fits too
  have hbig : 16384 < image.length := by
    have := lt_chunkCount_iff.mp (show 1 < chunkCount image.length by omega)
    omega
  obtain ⟨sender', hack, hsent⟩ := hh.sender.acceptAck hs hfull
  have hrecv := Server.Stream.receive_of_admissible (ackFrame requestId a) hl.valid
    hh.validator (ackFrame_admissible (by omega)) (by simp only [ackRecord] at hrecord ⊢; omega)
    hh.service.symm hh.requestId.symm rfl
  have heq : h.acknowledge (.ok (ackRecord requestId a ++ [0#8], rest))
      = { h with sender := sender', buffered := rest, phase := .looping } := by
    rw [Handler.acknowledge, ackRecord]
    simp only [Except.bind, hrecv, Except.map, hack]
    rfl
  rw [heq]
  exact ⟨{ hh with sender := hsent, phase := ⟨hs, hdone⟩ }, rfl, rfl, hdone⟩

end Sender

/-! ### Any use of a sender -/

/-- `Reset`. -/
def StreamSender.reset (sender : StreamSender) : StreamSender :=
  { sender with
    offset := 0, nextSequence := 0#32, nextAck := 0#32, sinceAck := 0#32, awaitingAck := false
    complete := false, failed := false }

inductive SenderCall
  | next
  | acceptAck (frame : Wire.Frame)
  | cancel
  | reset

/-- A sender, with the frames it has given out and the number of acknowledgements it has taken
since it was last reset. -/
structure Progress where
  sender : StreamSender
  given : List Wire.Frame
  acked : ℕ

def SenderCall.run (p : Progress) : SenderCall → Progress
  | .next =>
    let (result, sender) := p.sender.next
    { p with sender, given := p.given ++ result.toOption.toList }
  | .acceptAck frame =>
    let (result, sender) := p.sender.acceptAck frame
    { p with sender, acked := p.acked + result.toOption.toList.length }
  | .cancel => { p with sender := p.sender.cancel }
  | .reset => ⟨p.sender.reset, [], 0⟩

/-- The use of a new sender. -/
def StreamSender.use (sender : StreamSender) (calls : List SenderCall) : Progress :=
  calls.foldl SenderCall.run ⟨sender, [], 0⟩

/-- The first `s` frames of the transfer. -/
def firstFrames (requestId : RequestId) (image : Octets) (s : ℕ) : List Wire.Frame :=
  (List.range s).map fun r => ⟨transferFrame requestId image.length r, chunk r image⟩

/-- But for a failure, the sender is behind the frames that were given out, the first ones. -/
def Progress.Regular (requestId : RequestId) (image : Octets) (p : Progress) : Prop :=
  ∃ s, { p.sender with failed := false }.Sent requestId image s p.acked ∧
    p.given = firstFrames requestId image s

section Use

variable {requestId : RequestId} {image : Octets} {sender : StreamSender}

/-- The sender gives a frame out, or all that happens is that it fails. -/
theorem StreamSender.next_cases (sender : StreamSender) :
    (∃ err, sender.next = (.error err, sender) ∨ sender.next = (.error err, sender.cancel)) ∨
      sender.failed = false ∧ sender.complete = false ∧ sender.awaitingAck = false := by
  fun_cases StreamSender.next sender <;> simp_all [StreamSender.cancel]

theorem StreamSender.Sent.reset {s a : ℕ}
    (h : { sender with failed := false }.Sent requestId image s a) :
    sender.reset.Sent requestId image 0 0 := by
  refine ⟨h.reader, h.requestId, h.size, ?_, ?_, rfl, ?_, ?_, ?_, rfl, ?_, ?_, ?_, ?_⟩ <;>
    simp [StreamSender.reset]

/-- **One call** keeps to the order of the frames. -/
theorem SenderCall.run_regular {p : Progress} (hmax : image.length ≤ recoveryImageMax)
    (h : p.Regular requestId image) (call : SenderCall) :
    (call.run p).Regular requestId image := by
  obtain ⟨s, hsent, hgiven⟩ := h
  have hbounded := hsent.bounded
  have hwindow := hsent.window
  have hcomplete : p.sender.complete = _ := hsent.complete
  have hawaiting : p.sender.awaitingAck = _ := hsent.awaitingAck
  have hsame {sender : StreamSender} (hlive : sender.failed = false) :
      { sender with failed := false } = sender := by rw [← hlive]
  cases call with
  | next =>
    rw [SenderCall.run]
    rcases p.sender.next_cases with ⟨err, heq | heq⟩ | ⟨hlive, hmore, hopen⟩
    · exact ⟨s, by rwa [heq], by simpa [heq, Except.toOption] using hgiven⟩
    · exact ⟨s, by rwa [heq], by simpa [heq, Except.toOption] using hgiven⟩
    · rw [hcomplete, decide_eq_false_iff_not] at hmore
      rw [hawaiting, decide_eq_false_iff_not] at hopen
      rw [hsame hlive] at hsent
      obtain ⟨sender', heq, hnext⟩ := hsent.next_open hmax (by omega) (by omega)
      refine ⟨s + 1, by rwa [heq, hsame hnext.notFailed], ?_⟩
      simp [heq, hgiven, firstFrames, List.range_succ, Except.toOption]
  | acceptAck frame =>
    rw [SenderCall.run, StreamSender.acceptAck]
    split_ifs with hbad
    · exact ⟨s, hsent, hgiven⟩
    · -- what becomes of the sender does not depend on the frame it takes
      simp only [not_or, hcomplete, hawaiting, decide_eq_true_eq, Bool.not_eq_false] at hbad
      have hlive : p.sender.failed = false := by simpa using hbad.1
      rw [hsame hlive] at hsent
      obtain ⟨sender', heq, htaken⟩ := hsent.acceptAck (by omega) (by omega)
      rw [StreamSender.acceptAck] at heq
      split_ifs at heq
      · cases heq
      · obtain rfl := (Prod.mk.inj heq).2
        rw [hlive] at htaken
        exact ⟨s, htaken, hgiven⟩
  | cancel => exact ⟨s, hsent, hgiven⟩
  | reset => exact ⟨0, hsent.reset, rfl⟩

/-- **A sender gives the frames of the transfer out in order**, and at most eight ahead of the
acknowledgements it has taken, however it is used and whatever comes as an acknowledgement. -/
theorem sender_keeps_window {reader : ReaderAt} (hreads : Reads reader image)
    (hnew : newStreamSender reader image.length requestId = .ok sender) (calls : List SenderCall) :
    ∃ s, (sender.use calls).given = firstFrames requestId image s ∧
      s ≤ chunkCount image.length + 1 ∧ 8 * (sender.use calls).acked ≤ s ∧
      s ≤ 8 * (sender.use calls).acked + 8 := by
  have hmax : image.length ≤ recoveryImageMax := by
    simp only [newStreamSender, rejectIf_bind_eq_ok, not_or, Nat.not_lt] at hnew
    exact hnew.1.2.1
  have hstart : (⟨sender, [], 0⟩ : Progress).Regular requestId image := by
    have hsent := newStreamSender_ok hreads hnew
    exact ⟨0, by rwa [← hsent.notFailed], rfl⟩
  have hrun : (sender.use calls).Regular requestId image := List.foldlRecOn calls SenderCall.run hstart
    fun p hp call _ => SenderCall.run_regular hmax hp call
  obtain ⟨s, hsent, hgiven⟩ := hrun
  have hbounded := hsent.bounded
  have hacked := hsent.acked
  have hwindow := hsent.window
  have hended := hsent.ended
  exact ⟨s, hgiven, hbounded, by omega, by omega⟩

end Use

/-- A sender that is cancelled starts anew behind a reset. -/
theorem sender_keeps_window_sample : ∃ sender s,
    newStreamSender (fun length offset => some (([7#8].drop offset).take length)) 1
        (List.Vector.replicate 16 1#8) = .ok sender ∧
      (sender.use [.next, .cancel, .next, .reset, .next]).given
        = firstFrames (List.Vector.replicate 16 1#8) [7#8] s ∧ s ≤ 2 := by
  obtain ⟨s, hgiven, hs, -⟩ := @sender_keeps_window (List.Vector.replicate 16 1#8) [7#8] _ _
    (fun _ _ _ => rfl) rfl [.next, .cancel, .next, .reset, .next]
  exact ⟨_, s, rfl, hgiven, hs⟩

end Pbns.Recovery
