/-
The other calls of the broker (`src/core/broker.c`): requests, uploads, cancellation and
reset.

Like `bulkReceive`, the calls that wait for an answer take the number of turns their loop may
make and answer `none` when they do not suffice.
-/
import Pbns.Broker

namespace Pbns

open Octets Guard

/-- The operations of the bulk calls, the random source and the transport's cancellation. -/
structure SessionOps (σ : Type) extends BrokerOps σ where
  random : σ → Status × RequestId × σ
  cancel : RequestId → σ → Status × σ

/-- `PBNS_BROKER_CANCEL_TIMEOUT_MS` -/
def brokerCancelTimeoutMs : BitVec 32 := 1000#32

section Receive

variable {σ δ : Type} (ops : BrokerOps σ) (q : Qcbor δ)

/-- What `pbns_broker_receive` does with a frame the stream accepted. -/
def receiveFrame (frame : Frame) (payload : Octets) (b : Broker) : Except Status Response × Broker :=
  if frame.requestId ≠ b.requestId then (.error .errState, b)
  else if frame.type = messageError then
    (.error (decodeRemoteError q b.storage.decodedCap payload b.service), b)
  else if frame.type ≠ messageResponse then (.error .errMessageType, b)
  else if b.storage.decodedCap < payload.length then (.error .errLimit, b)
  else (.ok ⟨frame, payload⟩, { b with decoded := overwrite b.decoded payload })

/-- What `pbns_broker_receive` does with a complete record. -/
def receiveRecord (record : Octets) (b : Broker) : Except Status Response × Broker :=
  let decoded := frameDecode record b.limits b.storage.rawScratchCap
  let b := { b with
    reader := recordReaderReset b.reader
    rawScratch := decodeScratch record b.limits b.rawScratch }
  match decoded with
  | .error status => (.error status, b)
  | .ok (frame, payload) =>
    match streamAccept b.stream frame payload with
    | (.ok, stream) => receiveFrame q frame payload { b with stream }
    | (status, stream) => (.error status, { b with stream })

/-- A turn of the loop on the octets at hand; `none` is `continue`. -/
def receiveTurn (b : Broker) : Option (Except Status Response) × Broker :=
  let pushed := recordReaderPush b.reader b.storage.encoded b.unread
  let b := { b with
    reader := pushed.reader, storage.encoded := pushed.storage
    receiveOffset := b.receiveOffset + pushed.consumed }
  match pushed.status, pushed.record with
  | .errWouldBlock, _ => (none, b)
  | .ok, some record => let (result, b) := receiveRecord q record b; (some result, b)
  | .ok, none => (some (.error .errState), b)
  | status, _ => (some (.error status), b)

/-- What the loop does with an answer of the transport; `none` is "nothing yet" or
"octets at hand". -/
def receiveAwait (status : Status) (received : Octets) (b : Broker) :
    Option (Except Status Response) × Broker :=
  if status = .errWouldBlock then
    if received.length ≠ 0 then (some (.error .errTransport), b) else (none, b)
  else if status ≠ .ok then (some (.error status), b)
  else if received.length = 0 ∨ b.storage.receiveCap < received.length then
    (some (.error .errTransport), b)
  else (none, { b with receiveData := received, receiveLength := received.length })

/-- A turn of the loop that asks the transport. -/
def receiveAsk (b : Broker) (w : σ) : Option (Except Status Response) × Broker × σ :=
  match remainingTimeout ops b.drained w with
  | (.error status, w) => (some (.error status), b.drained, w)
  | (.ok remainingMs, w) =>
    let (status, received, w) := ops.receive b.storage.receiveCap remainingMs w
    let (result, b) := receiveAwait status received b.drained
    (result, b, w)

/-- One turn of the loop; `none` is `continue`. -/
def receiveStep (b : Broker) (w : σ) : Option (Except Status Response) × Broker × σ :=
  if b.receiveLength ≤ b.receiveOffset then receiveAsk ops b w
  else
    let (result, b) := receiveTurn q b
    (result, b, w)

/-- The loop of `pbns_broker_receive`. -/
def receiveLoop : ℕ → Broker → σ → Option (Except Status Response × Broker × σ)
  | 0, _, _ => none
  | fuel + 1, b, w =>
    match receiveStep ops q b w with
    | (some result, b, w) => some (result, b, w)
    | (none, b, w) => receiveLoop fuel b w

/-- `pbns_broker_receive`. -/
def brokerReceive (fuel : ℕ) (b : Broker) (w : σ) : Option (Except Status Response × Broker × σ) :=
  if b.initialized = false ∨ b.active = false ∨ b.bulkMode then some (.error .errState, b, w)
  else receiveLoop ops q fuel b w

/-- Encode into the shared memory, see how much time is left, and send. -/
def emitFrame (frame : Frame) (payload : Octets) (b : Broker) (w : σ) : Status × Broker × σ :=
  let rawScratch := encodeScratch frame payload b.storage.encoded.length b.rawScratch
  match frameEncode frame payload b.storage.rawScratchCap b.storage.encoded with
  | (.ok, encoded, written) =>
    let b := { b with storage.encoded := encoded, rawScratch }
    match remainingTimeout ops b w with
    | (.error status, w) => (status, b, w)
    | (.ok remainingMs, w) =>
      let (status, w) := ops.send (encoded.take written) remainingMs w
      (status, b, w)
  | (status, encoded, _) => (status, { b with storage.encoded := encoded, rawScratch }, w)

end Receive

section Calls

variable {σ δ : Type} (ops : SessionOps σ) (q : Qcbor δ)

/-- `emit_cancel`. -/
def emitCancel (b : Broker) (w : σ) : Status × Broker × σ :=
  sendFrame ops.toBrokerOps ⟨b.service, messageCancel, 0#8, b.requestId, 1#32⟩ []
    brokerCancelTimeoutMs b w

/-- `pbns_broker_cancel`. -/
def brokerCancel (b : Broker) (w : σ) : Status × Broker × σ :=
  if b.initialized = false ∨ b.active = false then (.errState, b, w)
  else
    let (status, b, w) := emitCancel ops b w
    let (localStatus, w) := ops.cancel b.requestId w
    let status :=
      if status = .ok ∧ localStatus ≠ .ok ∧ localStatus ≠ .errUnsupported then localStatus else status
    let (closeStatus, b, w) := finishSession ops.toBrokerOps false b w
    (if status = .ok ∧ closeStatus ≠ .ok then closeStatus else status, b, w)

/-- `abort_upload_session`. -/
def abortUploadSession (primary : Status) (b : Broker) (w : σ) : Status × Broker × σ :=
  if b.active then
    let (_, b, w) := emitCancel ops b w
    let (_, w) := ops.cancel b.requestId w
    let (_, b, w) := finishSession ops.toBrokerOps false b w
    (primary, b, w)
  else (primary, b, w)

/-- `pbns_broker_upload_begin` once the transport is open. -/
def uploadOpen (service : ServiceId) (requestBody : Octets) (b : Broker) (w : σ) :
    Status × Broker × σ :=
  match queryEffectiveLimits ops.toBrokerOps b w with
  | (.ok, b, w) =>
    if b.limits.controlPayloadMax < requestBody.length ∨ b.limits.dataPayloadMax = 0 then
      abandonSession ops.toBrokerOps .errLimit b w
    else
      let b := { b with
        service, uploadMode := true, uploadNextSequence := 0#32
        stream := streamInit service b.requestId b.limits.controlPayloadMax }
      if b.stream.initialized = false then abandonSession ops.toBrokerOps .errState b w
      else
        let request : Frame := ⟨service, messageRequest, 0#8, b.requestId, 0#32⟩
        match emitFrame ops.toBrokerOps request requestBody { b with active := true } w with
        | (.ok, b, w) => (.ok, b, w)
        | (status, b, w) => abortUploadSession ops status b w
  | (status, b, w) => abandonSession ops.toBrokerOps status b w

/-- `pbns_broker_upload_begin`. -/
def uploadBegin (service : ServiceId) (requestId : RequestId) (requestBody : Octets)
    (timeoutMs : BitVec 32) (b : Broker) (w : σ) : Status × Broker × σ :=
  if requestIdIsNonzero requestId = false ∨ timeoutMs = 0#32 then (.errArgument, b, w)
  else if b.initialized = false ∨ b.active ∨ b.opened then (.errState, b, w)
  else if serviceIsValid service = false then (.errService, b, w)
  else
    let b := { wipeRequestStorage false b with reader := recordReaderReset b.reader, requestId }
    match beginDeadline ops.toBrokerOps timeoutMs b w with
    | (.ok, b, w) =>
      match ops.openTransport w with
      | (.ok, w) => uploadOpen ops service requestBody { b with opened := true } w
      | (status, w) => (status, { b with deadlineActive := false, requestId := requestIdZero }, w)
    | (status, b, w) => (status, { b with requestId := requestIdZero }, w)

/-- `upload_emit`. -/
def uploadEmit (type : MessageType) (payload : Octets) (sequence : BitVec 32) (b : Broker) (w : σ) :
    Status × Broker × σ :=
  emitFrame ops.toBrokerOps ⟨b.service, type, 0#8, b.requestId, sequence⟩ payload b w

/-- The records of one `pbns_broker_upload_send`: the DATA, and COMPLETE behind the last. -/
def uploadRecords (payload : Octets) (finalRecord : Bool) (b : Broker) (w : σ) :
    Status × Broker × σ :=
  match uploadEmit ops messageData payload b.uploadNextSequence b w with
  | (.ok, b, w) =>
    let b := { b with uploadNextSequence := b.uploadNextSequence + 1#32 }
    if finalRecord then uploadEmit ops messageComplete [] b.uploadNextSequence b w else (.ok, b, w)
  | (status, b, w) => (status, b, w)

/-- The end of the last `pbns_broker_upload_send`: the wait for the response. -/
def uploadAnswer (fuel : ℕ) (b : Broker) (w : σ) :
    Option (Except Status (Option Response) × Broker × σ) :=
  match brokerReceive ops.toBrokerOps q fuel { b with uploadMode := false } w with
  | none => none
  | some (.error status, b, w) =>
    let (status, b, w) := abortUploadSession ops status b w
    some (.error status, b, w)
  | some (.ok response, b, w) => some (.ok (some response), { b with uploadResponseReceived := true }, w)

/-- `pbns_broker_upload_send`; there is a response behind the final record only. -/
def uploadSend (fuel : ℕ) (payload : Octets) (finalRecord : Bool) (b : Broker) (w : σ) :
    Option (Except Status (Option Response) × Broker × σ) :=
  if payload.length = 0 then some (.error .errArgument, b, w)
  else if b.initialized = false ∨ b.active = false ∨ b.uploadMode = false ∨ b.bulkMode then
    some (.error .errState, b, w)
  else if b.limits.dataPayloadMax < payload.length ∨ b.uploadNextSequence = uint32Max then
    let (status, b, w) := abortUploadSession ops .errLimit b w
    some (.error status, b, w)
  else
    match uploadRecords ops payload finalRecord b w with
    | (.ok, b, w) => if finalRecord then uploadAnswer ops q fuel b w else some (.ok none, b, w)
    | (status, b, w) =>
      let (status, b, w) := abortUploadSession ops status b w
      some (.error status, b, w)

/-- `pbns_broker_upload_finish`. -/
def uploadFinish (b : Broker) (w : σ) : Status × Broker × σ :=
  if b.initialized = false ∨ b.active = false ∨ b.uploadMode ∨ b.uploadResponseReceived = false then
    (.errState, b, w)
  else finishSession ops.toBrokerOps false b w

/-- `broker_request` from the open transport to the wait for the answer. -/
def requestOpen (service : ServiceId) (requestBody : Octets) (b : Broker) (w : σ) :
    Status × Broker × σ :=
  match queryEffectiveLimits ops.toBrokerOps b w with
  | (.ok, b, w) =>
    if b.limits.controlPayloadMax < requestBody.length then
      abandonSession ops.toBrokerOps .errLimit b w
    else
      let request : Frame := ⟨service, messageRequest, 0#8, b.requestId, 0#32⟩
      match emitFrame ops.toBrokerOps request requestBody b w with
      | (.ok, b, w) =>
        let b := { b with
          service, active := true
          stream := streamInit service b.requestId b.limits.controlPayloadMax }
        if b.stream.initialized = false then abandonSession ops.toBrokerOps .errState b w
        else (.ok, { b with reader := recordReaderReset b.reader }, w)
      | (status, b, w) => abandonSession ops.toBrokerOps status b w
  | (status, b, w) => abandonSession ops.toBrokerOps status b w

/-- `broker_request` up to the wait for the answer, with the number of the request. -/
def requestBegin (service : ServiceId) (requestId : RequestId) (requestBody : Octets)
    (timeoutMs : BitVec 32) (b : Broker) (w : σ) : Status × Broker × σ :=
  match beginDeadline ops.toBrokerOps timeoutMs { b with requestId } w with
  | (.ok, b, w) =>
    match ops.openTransport w with
    | (.ok, w) => requestOpen ops service requestBody { b with opened := true } w
    | (status, w) =>
      (status, wipeRequestStorage false { b with deadlineActive := false, requestId := requestIdZero }, w)
  | (status, b, w) => (status, wipeRequestStorage false { b with requestId := requestIdZero }, w)

/-- The end of `broker_request` behind an answer: the session is closed and the payload is
what the decoded memory still holds. -/
def requestSettle (response : Response) (b : Broker) (w : σ) : Except Status Response × Broker × σ :=
  match finishSession ops.toBrokerOps true b w with
  | (.ok, b, w) => (.ok ⟨response.frame, b.decoded.take response.payload.length⟩, b, w)
  | (closeStatus, b, w) =>
    (.error closeStatus, { b with decoded := List.replicate b.storage.decodedCap 0#8 }, w)

/-- The rest of `broker_request`: the answer, and the end of the session. -/
def requestAnswer (fuel : ℕ) (b : Broker) (w : σ) : Option (Except Status Response × Broker × σ) :=
  match brokerReceive ops.toBrokerOps q fuel b w with
  | none => none
  | some (.error .errTimeout, b, w) =>
    let (_, b, w) := brokerCancel ops b w
    some (.error .errTimeout, b, w)
  | some (.error status, b, w) =>
    -- the decoded memory is wiped whether or not the close succeeds
    let (_, b, w) := finishSession ops.toBrokerOps false b w
    some (.error status, b, w)
  | some (.ok response, b, w) => some (requestSettle ops response b w)

/-- The number of a request: the caller's, or drawn at random. -/
def requestNumber (supplied : Option RequestId) (w : σ) : Except Status RequestId × σ :=
  match supplied with
  | some requestId => (.ok requestId, w)
  | none =>
    match ops.random w with
    | (.ok, requestId, w) =>
      (if requestIdIsNonzero requestId then .ok requestId else .error .errEntropy, w)
    | (status, _, w) => (.error status, w)

/-- `broker_request`; an error comes with a cleared response. -/
def brokerRequest (fuel : ℕ) (service : ServiceId) (supplied : Option RequestId)
    (requestBody : Octets) (timeoutMs : BitVec 32) (b : Broker) (w : σ) :
    Option (Except Status Response × Broker × σ) :=
  if timeoutMs = 0#32 ∨ supplied.any (requestIdIsNonzero · = false) then
    some (.error .errArgument, b, w)
  else if b.initialized = false then some (.error .errState, b, w)
  else if serviceIsValid service = false then some (.error .errService, b, w)
  else if b.active ∨ b.opened then some (.error .errBusy, b, w)
  else
    let b := { wipeRequestStorage false b with
      reader := recordReaderReset b.reader, requestId := requestIdZero }
    match requestNumber ops supplied w with
    | (.error status, w) => some (.error status, b, w)
    | (.ok requestId, w) =>
      match requestBegin ops service requestId requestBody timeoutMs b w with
      | (.ok, b, w) => requestAnswer ops q fuel b w
      | (status, b, w) => some (.error status, b, w)

/-- What `pbns_broker_reset` leaves: a zeroed broker.  The memory it was lent stays with it
here, and no call gets at it. -/
def Broker.zeroed (b : Broker) : Broker :=
  { freshBroker b.storage with
    receiveData := b.receiveData, rawScratch := b.rawScratch, decoded := b.decoded
    reader := ⟨0, false, false, false, false⟩, initialized := false }

/-- `pbns_broker_reset`. -/
def brokerReset (b : Broker) (w : σ) : Broker × σ :=
  if b.initialized = false then (b, w)
  else
    let (b, w) :=
      if b.active then (brokerCancel ops b w).2
      else if b.opened then
        let (_, w) := ops.closeTransport w
        ({ b with opened := false }, w)
      else (b, w)
    ((wipeRequestStorage false b).zeroed, w)

end Calls

/-- `pbns_broker_init` leaves the memory it is given as it is. -/
def brokerInitOver (storage : BrokerStorage) (receiveData rawScratch decoded : Octets) :
    Except Status Broker := do
  let b ← brokerInit storage
  .ok { b with receiveData, rawScratch, decoded }

/-- The public calls, with their arguments. -/
inductive BrokerCall
  | request (service : ServiceId) (requestBody : Octets) (timeoutMs : BitVec 32)
  | requestWithId (service : ServiceId) (requestId : RequestId) (requestBody : Octets)
      (timeoutMs : BitVec 32)
  | receive
  | bulkBegin (service : ServiceId) (requestId : RequestId) (requestBody : Octets)
      (exactDataSize : ℕ) (timeoutMs : BitVec 32)
  | bulkReceive
  | bulkAck (nextDataSequence window : BitVec 32)
  | bulkFinish
  | uploadBegin (service : ServiceId) (requestId : RequestId) (requestBody : Octets)
      (timeoutMs : BitVec 32)
  | uploadSend (payload : Octets) (finalRecord : Bool)
  | uploadFinish
  | cancel
  | reset

section Runs

variable {σ δ : Type} (ops : SessionOps σ) (q : Qcbor δ) (fuel : ℕ)

/-- One call: the broker and the world behind it, `none` when it does not return within the
given number of turns. -/
def brokerCall (b : Broker) (w : σ) : BrokerCall → Option (Broker × σ)
  | .request service requestBody timeoutMs =>
    (brokerRequest ops q fuel service none requestBody timeoutMs b w).map (·.2)
  | .requestWithId service requestId requestBody timeoutMs =>
    (brokerRequest ops q fuel service (some requestId) requestBody timeoutMs b w).map (·.2)
  | .receive => (brokerReceive ops.toBrokerOps q fuel b w).map (·.2)
  | .bulkBegin service requestId requestBody exactDataSize timeoutMs =>
    some (Pbns.bulkBegin ops.toBrokerOps service requestId requestBody exactDataSize timeoutMs b w).2
  | .bulkReceive => (Pbns.bulkReceive ops.toBrokerOps q fuel b w).map (·.2)
  | .bulkAck nextDataSequence window =>
    some (Pbns.bulkAck ops.toBrokerOps nextDataSequence window b w).2
  | .bulkFinish => some (Pbns.bulkFinish ops.toBrokerOps b w).2
  | .uploadBegin service requestId requestBody timeoutMs =>
    some (Pbns.uploadBegin ops service requestId requestBody timeoutMs b w).2
  | .uploadSend payload finalRecord =>
    (Pbns.uploadSend ops q fuel payload finalRecord b w).map (·.2)
  | .uploadFinish => some (Pbns.uploadFinish ops b w).2
  | .cancel => some (brokerCancel ops b w).2
  | .reset => some (brokerReset ops b w)

/-- Calls one after the other. -/
def brokerCalls : List BrokerCall → Broker → σ → Option (Broker × σ)
  | [], b, w => some (b, w)
  | call :: calls, b, w =>
    match brokerCall ops q fuel b w call with
    | none => none
    | some (b, w) => brokerCalls calls b w

end Runs

end Pbns
