/-
The broker's bulk download (`src/core/broker.c`).

The transport and the clock are operations on the state `σ` of the outside world.
The memory `encoded` is one buffer with two users: the record reader collects an
incoming record in it, and outgoing frames are encoded into it.  The contents of the
other buffers are fields of the broker: `receiveData`, `rawScratch` and `decoded`.

The receive loop has no bound of its own, so `bulkReceive` takes the number of
turns it may make and answers `none` when they do not suffice.  One turn
(`bulkStep`) asks the transport (`bulkAsk`) or works on the octets at hand
(`bulkTurn`); the source does both in one pass when the transport has something.
-/
import Pbns.FrameCodec
import Pbns.RecordReader
import Pbns.RemoteError
import Pbns.Stream

namespace Pbns

open Octets Guard

/-- `pbns_transport_ops` and the clock of `pbns_broker_platform_ops`; `receive` gives
the status and the octets it reports as received. -/
structure BrokerOps (σ : Type) where
  monotonicMs : σ → Status × BitVec 64 × σ
  openTransport : σ → Status × σ
  closeTransport : σ → Status × σ
  send : Octets → BitVec 32 → σ → Status × σ
  receive : ℕ → BitVec 32 → σ → Status × Octets × σ
  limits : σ → Status × FrameLimits × σ

/-- `pbns_broker_storage`: the shared memory, and the capacities of the others. -/
structure BrokerStorage where
  encoded : Octets
  rawScratchCap : ℕ
  receiveCap : ℕ
  decodedCap : ℕ
  deriving DecidableEq

structure Response where
  frame : Frame
  payload : Octets
  deriving DecidableEq

/-- `pbns_broker`; `receiveData`, `rawScratch` and `decoded` are the contents of the buffers. -/
structure Broker where
  storage : BrokerStorage
  receiveData : Octets
  rawScratch : Octets
  decoded : Octets
  reader : RecordReader
  stream : StreamState
  limits : FrameLimits
  requestId : RequestId
  service : ServiceId
  deadlineMs : BitVec 64
  receiveOffset : ℕ
  receiveLength : ℕ
  bulkExactDataSize : ℕ
  bulkReceivedDataSize : ℕ
  bulkNextAckSequence : BitVec 32
  uploadNextSequence : BitVec 32
  initialized : Bool
  opened : Bool
  active : Bool
  deadlineActive : Bool
  bulkMode : Bool
  bulkFailed : Bool
  uploadMode : Bool
  uploadResponseReceived : Bool

def bulkWindow : BitVec 32 := 8#32

def requestIdZero : RequestId := List.Vector.replicate 16 0#8

def requestIdIsNonzero (requestId : RequestId) : Bool := requestId.toList.any (· ≠ 0#8)

def storageIsValid (storage : BrokerStorage) : Bool :=
  headerSize + trailerSize + 2 ≤ storage.encoded.length &&
    headerSize + trailerSize ≤ storage.rawScratchCap && 0 < storage.receiveCap &&
    0 < storage.decodedCap

/-- The broker `pbns_broker_init` sets up. -/
def freshBroker (storage : BrokerStorage) : Broker where
  storage := storage
  receiveData := List.replicate storage.receiveCap 0#8
  rawScratch := List.replicate storage.rawScratchCap 0#8
  decoded := List.replicate storage.decodedCap 0#8
  reader := recordReaderInit
  stream := streamZero
  limits := ⟨0, 0, 0⟩
  requestId := requestIdZero
  service := serviceInvalid
  deadlineMs := 0#64
  receiveOffset := 0
  receiveLength := 0
  bulkExactDataSize := 0
  bulkReceivedDataSize := 0
  bulkNextAckSequence := 0#32
  uploadNextSequence := 0#32
  initialized := true
  opened := false
  active := false
  deadlineActive := false
  bulkMode := false
  bulkFailed := false
  uploadMode := false
  uploadResponseReceived := false

/-- `pbns_broker_init` with valid operations. -/
def brokerInit (storage : BrokerStorage) : Except Status Broker := do
  rejectIf (storageIsValid storage = false) .errArgument
  .ok (freshBroker storage)

/-- `wipe_request_storage`. -/
def wipeRequestStorage (preserveDecoded : Bool) (b : Broker) : Broker :=
  { b with
    storage.encoded := List.replicate b.storage.encoded.length 0#8
    rawScratch := List.replicate b.storage.rawScratchCap 0#8
    receiveData := List.replicate b.storage.receiveCap 0#8
    decoded := if preserveDecoded then b.decoded else List.replicate b.storage.decodedCap 0#8 }

section Calls

variable {σ δ : Type} (ops : BrokerOps σ) (q : Qcbor δ)

/-- `query_effective_limits`. -/
def queryEffectiveLimits (b : Broker) (w : σ) : Status × Broker × σ :=
  match ops.limits w with
  | (.ok, limits, w) =>
    if controlPayloadMax < limits.controlPayloadMax ∨ dataPayloadMax < limits.dataPayloadMax ∨
        wireMax < limits.encodedRecordMax ∨ limits.encodedRecordMax < 2 then (.errLimit, b, w)
    else
      let payloadCapacity := b.storage.rawScratchCap - headerSize - trailerSize
      (.ok, { b with
        limits := ⟨min limits.controlPayloadMax (min payloadCapacity b.storage.decodedCap),
          min limits.dataPayloadMax (min payloadCapacity b.storage.decodedCap),
          min limits.encodedRecordMax b.storage.encoded.length⟩ }, w)
  | (status, _, w) => (status, b, w)

/-- `begin_deadline`: the deadline saturates at the end of the clock. -/
def beginDeadline (timeoutMs : BitVec 32) (b : Broker) (w : σ) : Status × Broker × σ :=
  match ops.monotonicMs w with
  | (.ok, now, w) =>
    let deadlineMs :=
      if uint64Max - now.toNat < timeoutMs.toNat then BitVec.allOnes 64
      else now + timeoutMs.setWidth 64
    (.ok, { b with deadlineMs, deadlineActive := true }, w)
  | (status, _, w) => (status, b, w)

/-- `remaining_timeout`. -/
def remainingTimeout (b : Broker) (w : σ) : Except Status (BitVec 32) × σ :=
  if b.deadlineActive = false then (.error .errState, w)
  else
    match ops.monotonicMs w with
    | (.ok, now, w) =>
      if b.deadlineMs ≤ now then (.error .errTimeout, w)
      else
        let remaining := b.deadlineMs - now
        (.ok (if uint32Max.toNat < remaining.toNat then uint32Max else remaining.setWidth 32), w)
    | (status, _, w) => (.error status, w)

/-- `finish_session`: the transport is closed and every trace of the session goes. -/
def finishSession (preserveDecoded : Bool) (b : Broker) (w : σ) : Status × Broker × σ :=
  let (closeStatus, w) := if b.opened then ops.closeTransport w else (.ok, w)
  (closeStatus, wipeRequestStorage preserveDecoded { b with
    opened := false, active := false, deadlineActive := false, deadlineMs := 0#64
    receiveOffset := 0, receiveLength := 0, bulkExactDataSize := 0, bulkReceivedDataSize := 0
    bulkNextAckSequence := 0#32, uploadNextSequence := 0#32, bulkMode := false
    bulkFailed := false, uploadMode := false, uploadResponseReceived := false
    service := serviceInvalid, requestId := requestIdZero
    reader := recordReaderReset b.reader, stream := streamZero }, w)

/-- Give up a session that could not be set up. -/
def abandonSession (status : Status) (b : Broker) (w : σ) : Status × Broker × σ :=
  (status, (finishSession ops false b w).2)

/-- Encode into the shared memory and send what was written. -/
def sendFrame (frame : Frame) (payload : Octets) (remainingMs : BitVec 32) (b : Broker) (w : σ) :
    Status × Broker × σ :=
  let rawScratch := encodeScratch frame payload b.storage.encoded.length b.rawScratch
  match frameEncode frame payload b.storage.rawScratchCap b.storage.encoded with
  | (.ok, encoded, written) =>
    let (status, w) := ops.send (encoded.take written) remainingMs w
    (status, { b with storage.encoded := encoded, rawScratch }, w)
  | (status, encoded, _) => (status, { b with storage.encoded := encoded, rawScratch }, w)

/-- `pbns_broker_bulk_begin` once the transport is open. -/
def bulkOpen (service : ServiceId) (requestBody : Octets) (exactDataSize : ℕ) (b : Broker) (w : σ) :
    Status × Broker × σ :=
  match queryEffectiveLimits ops b w with
  | (.ok, b, w) =>
    if b.limits.controlPayloadMax < requestBody.length ∨ b.limits.dataPayloadMax = 0 ∨
        b.limits.dataPayloadMax * (uint32Max.toNat - 1) < exactDataSize then
      abandonSession ops .errLimit b w
    else
      let request : Frame := ⟨service, messageRequest, 0#8, b.requestId, 0#32⟩
      let rawScratch := encodeScratch request requestBody b.storage.encoded.length b.rawScratch
      match frameEncode request requestBody b.storage.rawScratchCap b.storage.encoded with
      | (.ok, encoded, written) =>
        let b := { b with storage.encoded := encoded, rawScratch }
        match remainingTimeout ops b w with
        | (.error status, w) => abandonSession ops status b w
        | (.ok remainingMs, w) =>
          match ops.send (encoded.take written) remainingMs w with
          | (.ok, w) =>
            let b := { b with
              service, active := true, bulkMode := true, bulkExactDataSize := exactDataSize
              stream := streamInit service b.requestId uint64Max }
            if b.stream.initialized then (.ok, b, w) else abandonSession ops .errState b w
          | (status, w) => abandonSession ops status b w
      | (status, encoded, _) =>
        abandonSession ops status { b with storage.encoded := encoded, rawScratch } w
  | (status, b, w) => abandonSession ops status b w

/-- `pbns_broker_bulk_begin`. -/
def bulkBegin (service : ServiceId) (requestId : RequestId) (requestBody : Octets)
    (exactDataSize : ℕ) (timeoutMs : BitVec 32) (b : Broker) (w : σ) : Status × Broker × σ :=
  if requestIdIsNonzero requestId = false ∨ exactDataSize = 0 ∨ timeoutMs = 0#32 then
    (.errArgument, b, w)
  else if b.initialized = false then (.errState, b, w)
  else if serviceIsValid service = false then (.errService, b, w)
  else if b.active ∨ b.opened then (.errBusy, b, w)
  else
    let b := { wipeRequestStorage false b with reader := recordReaderReset b.reader, requestId }
    match beginDeadline ops timeoutMs b w with
    | (.ok, b, w) =>
      match ops.openTransport w with
      | (.ok, w) => bulkOpen ops service requestBody exactDataSize { b with opened := true } w
      | (status, w) =>
        (status, wipeRequestStorage false { b with deadlineActive := false, requestId := requestIdZero }, w)
    | (status, b, w) => (status, wipeRequestStorage false { b with requestId := requestIdZero }, w)

def failBulkSession (status : Status) (b : Broker) : Except Status Response × Broker :=
  (.error status, { b with bulkFailed := true, stream.failed := true })

/-- The end of a successful receive: the payload is copied out. -/
def bulkDeliver (frame : Frame) (payload : Octets) (b : Broker) : Except Status Response × Broker :=
  if b.storage.decodedCap < payload.length then failBulkSession .errLimit b
  else (.ok ⟨frame, payload⟩, { b with decoded := overwrite b.decoded payload })

/-- The size accounting behind an accepted frame. -/
def bulkFrame (frame : Frame) (payload : Octets) (b : Broker) : Except Status Response × Broker :=
  if frame.type = messageError then
    failBulkSession (decodeRemoteError q b.storage.decodedCap payload b.service) b
  else if frame.type = messageData then
    if payload.length = 0 then failBulkSession .errFormat b
    else if b.bulkExactDataSize < b.bulkReceivedDataSize ∨
        b.bulkExactDataSize - b.bulkReceivedDataSize < payload.length then
      failBulkSession .errLimit b
    else
      bulkDeliver frame payload
        { b with bulkReceivedDataSize := b.bulkReceivedDataSize + payload.length }
  else if b.bulkReceivedDataSize ≠ b.bulkExactDataSize then failBulkSession .errLimit b
  else bulkDeliver frame payload b

/-- What `pbns_broker_bulk_receive` does with a complete record. -/
def bulkRecord (record : Octets) (b : Broker) : Except Status Response × Broker :=
  let decoded := frameDecode record b.limits b.storage.rawScratchCap
  let b := { b with
    reader := recordReaderReset b.reader
    rawScratch := decodeScratch record b.limits b.rawScratch }
  match decoded with
  | .error status => failBulkSession status b
  | .ok (frame, payload) =>
    if frame.type ≠ messageData ∧ frame.type ≠ messageComplete ∧ frame.type ≠ messageError then
      failBulkSession .errMessageType b
    else
      match streamAccept b.stream frame payload with
      | (.ok, stream) => bulkFrame q frame payload { b with stream }
      | (status, stream) => failBulkSession status { b with stream }

/-- The octets received and not yet looked at. -/
def Broker.unread (b : Broker) : Octets := (b.receiveData.take b.receiveLength).drop b.receiveOffset

/-- A turn of the loop on the octets at hand; `none` is `continue`. -/
def bulkTurn (b : Broker) : Option (Except Status Response) × Broker :=
  let pushed := recordReaderPush b.reader b.storage.encoded b.unread
  let b := { b with
    reader := pushed.reader, storage.encoded := pushed.storage
    receiveOffset := b.receiveOffset + pushed.consumed }
  match pushed.status, pushed.record with
  | .errWouldBlock, _ => (none, b)
  | .ok, some record => let (result, b) := bulkRecord q record b; (some result, b)
  | .ok, none => let (result, b) := failBulkSession .errState b; (some result, b)
  | status, _ => let (result, b) := failBulkSession status b; (some result, b)

/-- What the loop does with an answer of the transport; `none` is "nothing yet" or
"octets at hand". -/
def bulkAwait (status : Status) (received : Octets) (b : Broker) :
    Option (Except Status Response) × Broker :=
  if status = .errWouldBlock then
    if received.length ≠ 0 then
      let (result, b) := failBulkSession .errTransport b; (some result, b)
    else (none, b)
  else if status ≠ .ok ∨ received.length = 0 ∨ b.storage.receiveCap < received.length then
    let (result, b) := failBulkSession (if status = .ok then .errTransport else status) b
    (some result, b)
  else (none, { b with receiveData := received, receiveLength := received.length })

/-- The receive buffer with nothing left in it. -/
def Broker.drained (b : Broker) : Broker := { b with receiveOffset := 0, receiveLength := 0 }

/-- A turn of the loop that asks the transport. -/
def bulkAsk (b : Broker) (w : σ) : Option (Except Status Response) × Broker × σ :=
  match remainingTimeout ops b.drained w with
  | (.error status, w) =>
    let (result, b) := failBulkSession status b.drained
    (some result, b, w)
  | (.ok remainingMs, w) =>
    let (status, received, w) := ops.receive b.storage.receiveCap remainingMs w
    let (result, b) := bulkAwait status received b.drained
    (result, b, w)

/-- One turn of the loop; `none` is `continue`. -/
def bulkStep (b : Broker) (w : σ) : Option (Except Status Response) × Broker × σ :=
  if b.receiveLength ≤ b.receiveOffset then bulkAsk ops b w
  else
    let (result, b) := bulkTurn q b
    (result, b, w)

/-- The loop of `pbns_broker_bulk_receive`. -/
def bulkReceiveLoop : ℕ → Broker → σ → Option (Except Status Response × Broker × σ)
  | 0, _, _ => none
  | fuel + 1, b, w =>
    match bulkStep ops q b w with
    | (some result, b, w) => some (result, b, w)
    | (none, b, w) => bulkReceiveLoop fuel b w

/-- The calls of a bulk session are refused outside it. -/
def Broker.bulkClosed (b : Broker) : Bool :=
  !b.initialized || !b.active || !b.bulkMode || b.bulkFailed

/-- `pbns_broker_bulk_receive`. -/
def bulkReceive (fuel : ℕ) (b : Broker) (w : σ) : Option (Except Status Response × Broker × σ) :=
  if b.bulkClosed ∨ b.stream.complete then some (.error .errState, b, w)
  else bulkReceiveLoop ops q fuel b w

/-- `pbns_broker_bulk_ack`. -/
def bulkAck (nextDataSequence window : BitVec 32) (b : Broker) (w : σ) : Status × Broker × σ :=
  if b.bulkClosed ∨ b.stream.complete then (.errState, b, w)
  else if nextDataSequence = 0#32 ∨ nextDataSequence ≠ b.stream.nextSequence ∨
      nextDataSequence.toNat ≠ (b.bulkNextAckSequence.toNat + 1) * bulkWindow.toNat ∨
      window ≠ bulkWindow ∨ b.bulkNextAckSequence = uint32Max then (.errArgument, b, w)
  else
    match remainingTimeout ops b w with
    | (.error status, w) => (status, (failBulkSession status b).2, w)
    | (.ok remainingMs, w) =>
      let payload := writeU32Be nextDataSequence ++ writeU32Be window
      let ack : Frame := ⟨b.service, messageAck, 0#8, b.requestId, b.bulkNextAckSequence⟩
      match sendFrame ops ack payload remainingMs b w with
      | (.ok, b, w) => (.ok, { b with bulkNextAckSequence := b.bulkNextAckSequence + 1#32 }, w)
      | (status, b, w) => (status, (failBulkSession status b).2, w)

/-- `pbns_broker_bulk_finish`. -/
def bulkFinish (b : Broker) (w : σ) : Status × Broker × σ :=
  if b.bulkClosed ∨ ¬ b.stream.complete ∨ b.bulkReceivedDataSize ≠ b.bulkExactDataSize then
    (.errState, b, w)
  else finishSession ops false b w

end Calls

end Pbns
