/-
The upload of the attestation evidence, client side: the wrapper around the broker
(`src/core/attestation_upload.c`), the record loop of `pbns_attestation_submit`
(`src/core/attestation.c`) and the end of a run (`src/core/attestation_run.c`).

What is left outside is a pair of operations: the gate in front of every record, and the test
of the response before the upload is finished.  The transport keeps the list of its calls
(`SessionOps.traced`); an upload that goes well sends `uploadRecords`, and

* `Live.emit` — sending a frame of a live session, whatever comes of it;
* `gaveUp` — the one way out of a session that fails;
* `uploadRun_ended` — the three ways a run ends, as seen in that list.
-/
import Pbns.BrokerLifecycle
import Pbns.WireCodec

namespace Pbns

open Octets Guard

/-- `pbns_attestation_upload`; the broker is passed beside it. -/
structure AttestationUpload where
  requestId : RequestId
  encodedRequest : Octets
  responsePayload : Octets
  timeoutMs : BitVec 32
  nextSequence : BitVec 32
  started : Bool
  responseReceived : Bool
  finished : Bool
  cancelled : Bool
  deriving DecidableEq

/-- The upload `pbns_attestation_run` sets up. -/
def newUpload (requestId : RequestId) (encodedRequest : Octets) (timeoutMs : BitVec 32) :
    AttestationUpload :=
  ⟨requestId, encodedRequest, [], timeoutMs, 0#32, false, false, false, false⟩

/-- What the run does around the upload: `gate` with the time that remains, and everything
between the response and `pbns_attestation_upload_finish`. -/
structure RunOps (σ : Type) where
  gate : σ → Status × BitVec 32 × σ
  verify : Octets → σ → Status × σ

section Model

variable {σ δ : Type} (ops : SessionOps σ) (q : Qcbor δ)

/-- `abort_upload`. -/
def abortUpload (primary : Status) (upload : AttestationUpload) (b : Broker) (w : σ) :
    Status × AttestationUpload × Broker × σ :=
  if upload.started && !upload.finished && !upload.cancelled then
    let (_, b, w) := brokerCancel ops b w
    (primary, { upload with cancelled := true, responsePayload := [] }, b, w)
  else (primary, upload, b, w)

/-- The tests on the response behind the final record. -/
def responseIsBound (requestId : RequestId) (response : Response) : Bool :=
  response.frame.service = servicePlatformAttestation && response.frame.type = messageResponse
    && response.frame.sequence = 0#32 && response.frame.requestId = requestId
    && response.payload.length ≠ 0

/-- `pbns_attestation_upload_send` once the session is there. -/
def uploadRecord (fuel : ℕ) (payload : Octets) (finalRecord : Bool) (upload : AttestationUpload)
    (b : Broker) (w : σ) : Option (Status × AttestationUpload × Broker × σ) :=
  match uploadSend ops q fuel payload finalRecord b w with
  | none => none
  | some (.error status, b, w) => some (abortUpload ops status upload b w)
  | some (.ok response, b, w) =>
    if finalRecord = false then
      some (.ok, { upload with nextSequence := upload.nextSequence + 1#32 }, b, w)
    else
      match response with
      | none => some (abortUpload ops .errFormat upload b w)
      | some response =>
        if responseIsBound upload.requestId response then
          some (.ok, { upload with
            responsePayload := response.payload, responseReceived := true }, b, w)
        else some (abortUpload ops .errFormat upload b w)

/-- `pbns_attestation_upload_send`. -/
def attestationUploadSend (fuel : ℕ) (requestId : RequestId) (sequence : BitVec 32)
    (payload : Octets) (finalRecord : Bool) (upload : AttestationUpload) (b : Broker) (w : σ) :
    Option (Status × AttestationUpload × Broker × σ) :=
  if upload.finished || upload.cancelled || upload.responseReceived
      || sequence ≠ upload.nextSequence || requestId ≠ upload.requestId then
    some (abortUpload ops .errState upload b w)
  else if upload.nextSequence = uint32Max then some (abortUpload ops .errLimit upload b w)
  else if upload.started then uploadRecord ops q fuel payload finalRecord upload b w
  else
    match uploadBegin ops servicePlatformAttestation requestId upload.encodedRequest
        upload.timeoutMs b w with
    | (.ok, b, w) => uploadRecord ops q fuel payload finalRecord { upload with started := true } b w
    | (status, b, w) => some (status, upload, b, w)

/-- `pbns_attestation_upload_finish`. -/
def attestationUploadFinish (upload : AttestationUpload) (b : Broker) (w : σ) :
    Status × AttestationUpload × Broker × σ :=
  if !upload.started || !upload.responseReceived || upload.finished || upload.cancelled then
    (.errState, upload, b, w)
  else
    let (status, b, w) := uploadFinish ops b w
    (status, { upload with responsePayload := [], finished := true }, b, w)

/-- `pbns_attestation_upload_cancel`. -/
def attestationUploadCancel (upload : AttestationUpload) (b : Broker) (w : σ) :
    Status × AttestationUpload × Broker × σ :=
  if !upload.started || upload.finished || upload.cancelled then (.ok, upload, b, w)
  else
    let (status, b, w) := brokerCancel ops b w
    (status, { upload with cancelled := true }, b, w)

variable (run : RunOps σ)

/-- `send_with_gate`. -/
def sendWithGate (fuel : ℕ) (requestId : RequestId) (sequence : BitVec 32) (payload : Octets)
    (finalRecord : Bool) (upload : AttestationUpload) (b : Broker) (w : σ) :
    Option (Status × AttestationUpload × Broker × σ) :=
  match run.gate w with
  | (.ok, remaining, w) =>
    let upload := if upload.started then upload else { upload with timeoutMs := remaining }
    attestationUploadSend ops q fuel requestId sequence payload finalRecord upload b w
  | (status, _, w) => some (status, upload, b, w)

/-- The record loop of `pbns_attestation_submit`, over the pieces the ciphertext is cut into. -/
def submitRecords (fuel : ℕ) (requestId : RequestId) :
    List Octets → BitVec 32 → AttestationUpload → Broker → σ →
      Option (Status × AttestationUpload × Broker × σ)
  | [], _, upload, b, w => some (.ok, upload, b, w)
  | piece :: rest, sequence, upload, b, w =>
    match sendWithGate ops q run fuel requestId sequence piece rest.isEmpty upload b w with
    | none => none
    | some (.ok, upload, b, w) =>
      if rest.isEmpty then some (.ok, upload, b, w)
      else if sequence = uint32Max then some (.errLimit, upload, b, w)
      else submitRecords fuel requestId rest (sequence + 1#32) upload b w
    | some (status, upload, b, w) => some (status, upload, b, w)

/-- A run that failed cancels an upload that is still open. -/
def leaveUpload (status : Status) (upload : AttestationUpload) (b : Broker) (w : σ) :
    Status × AttestationUpload × Broker × σ :=
  if status ≠ .ok ∧ upload.started ∧ upload.finished = false ∧ upload.cancelled = false then
    let (_, upload, b, w) := attestationUploadCancel ops upload b w
    (status, upload, b, w)
  else (status, upload, b, w)

/-- The end of `pbns_attestation_run` behind the submission. -/
def settleUpload (status : Status) (upload : AttestationUpload) (b : Broker) (w : σ) :
    Status × AttestationUpload × Broker × σ :=
  let status := if status = .ok ∧ upload.responseReceived = false then .errState else status
  if status ≠ .ok then leaveUpload ops status upload b w
  else
    match run.verify upload.responsePayload w with
    | (.ok, w) =>
      let (status, upload, b, w) := attestationUploadFinish ops upload b w
      leaveUpload ops status upload b w
    | (status, w) => leaveUpload ops status upload b w

/-- The upload of the pieces of a ciphertext, from the first record to the last close. -/
def uploadRun (fuel : ℕ) (pieces : List Octets) (upload : AttestationUpload) (b : Broker) (w : σ) :
    Option (Status × AttestationUpload × Broker × σ) :=
  match submitRecords ops q run fuel upload.requestId pieces 0#32 upload b w with
  | none => none
  | some (status, upload, b, w) => some (settleUpload ops run status upload b w)

end Model

/-- The cut of the loop in `pbns_attestation_submit`: `PBNS_FRAME_V1_DATA_PAYLOAD_MAX` at a time;
a round takes at least one octet. -/
def submitCut : ℕ → Octets → List Octets
  | 0, _ => []
  | _ + 1, [] => []
  | rounds + 1, remaining =>
    remaining.take dataPayloadMax :: submitCut rounds (remaining.drop dataPayloadMax)

def submitPieces (ciphertext : Octets) : List Octets := submitCut ciphertext.length ciphertext

/-! ### What an upload sends -/

/-- The record of a frame on the wire. -/
def wireRecord (frame : Frame) (payload : Octets) : Octets := stuffed frame payload ++ [0#8]

def uploadFrame (requestId : RequestId) (type : MessageType) (sequence : BitVec 32) : Frame :=
  ⟨servicePlatformAttestation, type, 0#8, requestId, sequence⟩

def requestRecord (requestId : RequestId) (encodedRequest : Octets) : Octets :=
  wireRecord (uploadFrame requestId messageRequest 0#32) encodedRequest

def dataRecord (requestId : RequestId) (i : ℕ) (piece : Octets) : Octets :=
  wireRecord (uploadFrame requestId messageData (BitVec.ofNat 32 i)) piece

def completeRecord (requestId : RequestId) (count : ℕ) : Octets :=
  wireRecord (uploadFrame requestId messageComplete (BitVec.ofNat 32 count)) []

def cancelRecord (requestId : RequestId) : Octets :=
  wireRecord (uploadFrame requestId messageCancel 1#32) []

/-- Everything a successful upload sends. -/
def uploadRecordsOf (requestId : RequestId) (encodedRequest : Octets) (pieces : List Octets) :
    List Octets :=
  requestRecord requestId encodedRequest :: pieces.mapIdx (dataRecord requestId)
    ++ [completeRecord requestId pieces.length]

/-- The records the transport took, in order. -/
def delivered (log : List TransportCall) : List Octets :=
  log.filterMap fun
    | .send record .ok => some record
    | _ => none

/-- An attempt to send the CANCEL of a request. -/
def TransportCall.SendsCancel (requestId : RequestId) : TransportCall → Prop
  | .send record _ => record = cancelRecord requestId
  | _ => False

def TransportCall.Cancels : TransportCall → Prop
  | .cancel _ _ => True
  | _ => False

instance (requestId : RequestId) : DecidablePred (TransportCall.SendsCancel requestId)
  | .send record _ => inferInstanceAs (Decidable (record = cancelRecord requestId))
  | .openTransport _ | .closeTransport _ | .receive _ | .cancel _ _ => .isFalse id

instance : DecidablePred TransportCall.Cancels
  | .cancel _ _ => .isTrue trivial
  | .openTransport _ | .closeTransport _ | .receive _ | .send _ _ => .isFalse id

/-- Neither of the two ways to cancel. -/
def TransportCall.Plain (requestId : RequestId) (call : TransportCall) : Prop :=
  ¬ call.SendsCancel requestId ∧ ¬ call.Cancels

instance (requestId : RequestId) : DecidablePred (TransportCall.Plain requestId) :=
  fun call => inferInstanceAs (Decidable (¬ call.SendsCancel requestId ∧ ¬ call.Cancels))

theorem delivered_append (log log' : List TransportCall) :
    delivered (log ++ log') = delivered log ++ delivered log' :=
  List.filterMap_append

@[simp] theorem delivered_send_ok (record : Octets) :
    delivered [.send record .ok] = [record] := rfl

theorem delivered_send_of_ne {status : Status} (h : status ≠ .ok) (record : Octets) :
    delivered [.send record status] = [] := by
  cases status <;> first | rfl | exact absurd rfl h

/-- Every frame the codec takes can be read back. -/
theorem wireRecord_decode {frame : Frame} {payload : Octets}
    (h : Admissible defaultLimits frame payload) :
    Wire.decode ⟨Wire.limitsOf defaultLimits⟩ (wireRecord frame payload) = .ok ⟨frame, payload⟩ := by
  have hlen := length_stuffed_le frame payload
  have hpayload : payload.length ≤ 65536 := h.payload.length_le (by decide) (by decide)
  have hfits : (stuffed frame payload).length + 1 ≤ defaultLimits.encodedRecordMax := by
    show _ ≤ 65836
    omega
  exact @Wire.decode_stuffed ⟨frame, payload⟩ defaultLimits (by decide) h hfits

/-- Records of different types differ. -/
theorem wireRecord_ne {frame frame' : Frame} {payload payload' : Octets}
    (h : Admissible defaultLimits frame payload) (h' : Admissible defaultLimits frame' payload')
    (hne : frame.type ≠ frame'.type) : wireRecord frame payload ≠ wireRecord frame' payload' := by
  intro heq
  have hdecode := wireRecord_decode h
  rw [heq, wireRecord_decode h'] at hdecode
  have hframe := congrArg (fun r => r.toOption.map (·.toFrame.type)) hdecode
  exact hne (by simpa [Except.toOption] using hframe.symm)

/-! ### A live session -/

section Receive

variable {σ δ : Type} (ops : BrokerOps σ) (q : Qcbor δ)

/-- Waiting for the response only asks the transport. -/
theorem receiveStep_asks (b : Broker) (w : σ × List TransportCall) :
    (receiveStep ops.traced q b w).2.1.view = b.view
      ∧ ∃ calls, (receiveStep ops.traced q b w).2.2.2 = w.2 ++ calls
        ∧ ∀ c ∈ calls, ∃ status, c = .receive status := by
  rw [receiveStep]
  split_ifs
  · rw [receiveAsk]
    have hlog := remainingTimeout_traced ops b.drained w
    split
    · rename_i heq
      rw [heq] at hlog
      exact ⟨rfl, [], hlog.trans (List.append_nil _).symm, by simp⟩
    · rename_i heq
      rw [heq] at hlog
      refine ⟨?_, [_], congrArg (· ++ [_]) hlog, by simp⟩
      show (receiveAwait _ _ b.drained).2.view = b.view
      rw [receiveAwait]
      split_ifs <;> rfl
  · exact ⟨congrArg Outline.view (receiveTurn_outline q b), [], (List.append_nil _).symm, by simp⟩

theorem receiveLoop_asks {fuel : ℕ} {result : Except Status Response} {b b' : Broker}
    {w w' : σ × List TransportCall} (h : receiveLoop ops.traced q fuel b w = some (result, b', w')) :
    b'.view = b.view ∧ ∃ calls, w'.2 = w.2 ++ calls ∧ ∀ c ∈ calls, ∃ status, c = .receive status := by
  induction fuel generalizing b w with
  | zero => exact absurd h (by simp [receiveLoop])
  | succ fuel ih =>
    obtain ⟨hview, calls, hlog, hcalls⟩ := receiveStep_asks ops q b w
    rw [receiveLoop] at h
    rcases heq : receiveStep ops.traced q b w with ⟨_ | r, b₁, w₁⟩ <;> rw [heq] at h hview hlog
    · obtain ⟨hview', calls', hlog', hcalls'⟩ := ih h
      refine ⟨hview'.trans hview, calls ++ calls', ?_, ?_⟩
      · rw [hlog', hlog, List.append_assoc]
      · intro c hc
        exact (List.mem_append.mp hc).elim (hcalls c) (hcalls' c)
    · cases h
      exact ⟨hview, calls, hlog, hcalls⟩

theorem receiveFrame_ne_error_ok (frame : Frame) (payload : Octets) (b : Broker) :
    (receiveFrame q frame payload b).1 ≠ .error .ok := by
  rw [receiveFrame]
  split_ifs
  · simp
  · simpa using decodeRemoteError_ne_ok _ _ _ _
  · simp
  · simp
  · simp

theorem receiveRecord_ne_error_ok (record : Octets) (b : Broker) :
    (receiveRecord q record b).1 ≠ .error .ok := by
  rw [receiveRecord]
  cases hdecode : frameDecode record b.limits b.storage.rawScratchCap with
  | error status =>
    simp only [ne_eq, Except.error.injEq]
    rintro rfl
    exact frameDecode_ne_error_ok hdecode
  | ok r =>
    obtain ⟨frame, payload⟩ := r
    simp only
    split
    · exact receiveFrame_ne_error_ok q frame payload _
    · rename_i hne _
      simpa using hne

/-- Waiting for the response fails with an error. -/
theorem receiveStep_ne_error_ok (b : Broker) (w : σ) :
    (receiveStep ops q b w).1 ≠ some (.error .ok) := by
  rw [receiveStep]
  split_ifs
  · rw [receiveAsk]
    split
    · rename_i status w' heq
      simp only [ne_eq, Option.some.injEq, Except.error.injEq]
      rintro rfl
      exact remainingTimeout_ne_error_ok _ heq
    · simp only [receiveAwait]
      split_ifs <;> simp_all
  · simp only [receiveTurn]
    split
    · simp
    · simpa using receiveRecord_ne_error_ok q _ _
    · simp
    · -- a status without an error comes with or without a record, and both are above
      rename_i hsome hnone
      intro h
      have hok : (recordReaderPush b.reader b.storage.encoded b.unread).status = .ok := by
        simpa using h
      cases hrecord : (recordReaderPush b.reader b.storage.encoded b.unread).record with
      | none => exact hnone hok hrecord
      | some record => exact hsome record hok hrecord

theorem receiveLoop_ne_error_ok {fuel : ℕ} {b b' : Broker} {w w' : σ} :
    receiveLoop ops q fuel b w ≠ some (.error .ok, b', w') := by
  induction fuel generalizing b w with
  | zero => simp [receiveLoop]
  | succ fuel ih =>
    have hstep := receiveStep_ne_error_ok ops q b w
    rw [receiveLoop]
    rcases heq : receiveStep ops q b w with ⟨_ | r, b₁, w₁⟩
    · exact ih
    · rw [heq] at hstep
      intro h
      simp only [Option.some.injEq, Prod.mk.injEq] at h
      exact hstep (congrArg some h.1)

/-- A frame goes out whole, in one attempt, or not at all. -/
theorem emitFrame_attempt {frame : Frame} {payload : Octets} {status : Status} {b b' : Broker}
    {w w' : σ × List TransportCall}
    (h : emitFrame ops.traced frame payload b w = (status, b', w')) :
    b'.view = b.view ∧ ((status ≠ .ok ∧ w'.2 = w.2)
      ∨ (Admissible defaultLimits frame payload
        ∧ w'.2 = w.2 ++ [.send (wireRecord frame payload) status])) := by
  have hlog := remainingTimeout_traced ops b w
  obtain ⟨encoded, rawScratch, hlen, rfl, hsent⟩ := emitFrame_cases h
  refine ⟨congrArg Outline.view (encoded_outline b hlen rawScratch), ?_⟩
  rcases hsent with ⟨hne, rfl | hrt⟩ | ⟨hroom, remainingMs, w₁, hrt, hsend⟩
  · exact .inl ⟨hne, rfl⟩
  · rw [hrt] at hlog
    exact .inl ⟨hne, hlog⟩
  · rw [hrt] at hlog
    cases hsend
    exact .inr ⟨hroom.1, congrArg (· ++ [_]) hlog⟩

end Receive

/-- The session of an upload is live: it can still be given up, and what went out so far is a
front of what a successful upload sends. -/
structure Live (requestId : RequestId) (encodedRequest : Octets) (pieces : List Octets)
    (v : SessionView) (log : List TransportCall) : Prop where
  initialized : v.initialized = true
  opened : v.opened = true
  active : v.active = true
  service : v.service = servicePlatformAttestation
  id : v.requestId = requestId
  room : 42 ≤ v.encodedCap ∧ 40 ≤ v.rawScratchCap
  request : encodedRequest.length ≤ controlPayloadMax
  plain : ∀ c ∈ log, c.Plain requestId
  front : delivered log <+: uploadRecordsOf requestId encodedRequest pieces

/-- The session was given up: one CANCEL, one cancellation of the transport, one close. -/
def Aborted (requestId : RequestId) (encodedRequest : Octets) (pieces : List Octets)
    (log : List TransportCall) : Prop :=
  encodedRequest.length ≤ controlPayloadMax ∧ ∃ before status status' status'',
    log = before ++ [.send (cancelRecord requestId) status, .cancel requestId status',
      .closeTransport status'']
    ∧ (∀ c ∈ before, c.Plain requestId)
    ∧ delivered before <+: uploadRecordsOf requestId encodedRequest pieces

/-- The session was finished: everything went out, and then the transport was closed. -/
def Finished (requestId : RequestId) (encodedRequest : Octets) (pieces : List Octets)
    (log : List TransportCall) : Prop :=
  encodedRequest.length ≤ controlPayloadMax ∧ ∃ before status,
    log = before ++ [.closeTransport status]
    ∧ (∀ c ∈ before, c.Plain requestId)
    ∧ delivered before = uploadRecordsOf requestId encodedRequest pieces

/-- The transport was at most opened and closed. -/
def Unsent (log : List TransportCall) : Prop :=
  ∀ c ∈ log, (∃ status, c = .openTransport status) ∨ ∃ status, c = .closeTransport status

theorem uploadFrame_admissible {type : MessageType} {payload : Octets} (requestId : RequestId)
    (sequence : BitVec 32) (htype : messageTypeIsValid type = true)
    (hpayload : PayloadAllowed controlPayloadMax dataPayloadMax type payload) :
    Admissible defaultLimits (uploadFrame requestId type sequence) payload :=
  ⟨rfl, htype, rfl, hpayload⟩

theorem cancel_admissible (requestId : RequestId) :
    Admissible defaultLimits (uploadFrame requestId messageCancel 1#32) [] :=
  uploadFrame_admissible _ _ rfl (by simp [PayloadAllowed, messageCancel, messageData, messageAck])

/-- Only a CANCEL is a CANCEL. -/
theorem send_plain {requestId : RequestId} {frame : Frame} {payload : Octets}
    (h : Admissible defaultLimits frame payload) (hne : frame.type ≠ messageCancel)
    (status : Status) :
    (TransportCall.send (wireRecord frame payload) status).Plain requestId :=
  ⟨wireRecord_ne h (cancel_admissible requestId) hne, False.elim⟩

section Session

variable {σ δ : Type} {ops : SessionOps σ} {q : Qcbor δ} {requestId : RequestId}
  {encodedRequest : Octets} {pieces : List Octets} {b b' : Broker} {w w' : σ × List TransportCall}
  {status : Status}

variable (h : Live requestId encodedRequest pieces b.view w.2)

include h

theorem Live.frame (type : MessageType) (sequence : BitVec 32) :
    (⟨b.service, type, 0#8, b.requestId, sequence⟩ : Frame) = uploadFrame requestId type sequence := by
  rw [show b.service = servicePlatformAttestation from h.service,
    show b.requestId = requestId from h.id]
  rfl

/-- There is always room for the CANCEL. -/
theorem emitCancel_attempt (hrun : emitCancel ops.traced b w = (status, b', w')) :
    b'.view = b.view ∧ w'.2 = w.2 ++ [.send (cancelRecord requestId) status] := by
  have hroom : b.HasRoomFor (uploadFrame requestId messageCancel 1#32) [] :=
    ⟨cancel_admissible requestId, h.room.2, h.room.1⟩
  rw [emitCancel, h.frame] at hrun
  obtain ⟨encoded, rawScratch, hlen, rfl, ⟨-, hnot, -⟩ | ⟨-, hsend⟩⟩ := sendFrame_cases hrun
  · exact absurd hroom hnot
  · cases hsend
    exact ⟨congrArg Outline.view (encoded_outline b hlen rawScratch), rfl⟩

omit h in
theorem finishSession_closed {preserveDecoded : Bool} (hopened : b.opened = true)
    (hrun : finishSession ops.traced.toBrokerOps preserveDecoded b w = (status, b', w')) :
    b'.active = false ∧ w'.2 = w.2 ++ [.closeTransport status] := by
  rw [finishSession, hopened] at hrun
  cases hrun
  exact ⟨rfl, rfl⟩

/-- CANCEL, cancellation and close, as both ways to give up a session do them. -/
theorem gaveUp {b₁ : Broker} {w₁ : σ × List TransportCall} {closing : Status}
    (hsent : emitCancel ops.traced b w = (status, b₁, w₁))
    (hended : finishSession ops.traced.toBrokerOps false b₁ (ops.traced.cancel b₁.requestId w₁).2 = (closing, b', w'))
    :
    b'.active = false ∧ Aborted requestId encodedRequest pieces w'.2 := by
  obtain ⟨hview, hlog⟩ := emitCancel_attempt h hsent
  have hid : b₁.requestId = requestId := (congrArg SessionView.requestId hview).trans h.id
  obtain ⟨hactive, hclosed⟩ := finishSession_closed
    ((congrArg SessionView.opened hview).trans h.opened) hended
  refine ⟨hactive, h.request, w.2, status, (ops.cancel b₁.requestId w₁.1).1, closing, ?_, h.plain,
    h.front⟩
  rw [hclosed]
  simp only [SessionOps.traced]
  rw [hlog, hid, List.append_assoc, List.append_assoc]
  rfl

/-- A call that fails in a live session gives it up. -/
theorem Live.aborts {primary : Status} {result : Except Status (Option Response)}
    (hne : primary ≠ .ok)
    (hrun : (match abortUploadSession ops.traced primary b w with | (status, b, w) => some (.error status, b, w)) = some (result, b', w'))
    :
    ∃ status, status ≠ .ok ∧ result = .error status ∧ b'.active = false
      ∧ Aborted requestId encodedRequest pieces w'.2 := by
  have hactive : b.active = true := h.active
  rw [abortUploadSession, if_pos hactive] at hrun
  cases hrun
  exact ⟨primary, hne, rfl, gaveUp h rfl rfl⟩

theorem brokerCancel_aborted :
    (brokerCancel ops.traced b w).2.1.active = false
      ∧ Aborted requestId encodedRequest pieces (brokerCancel ops.traced b w).2.2.2 := by
  have hinit : b.initialized = true := h.initialized
  have hactive : b.active = true := h.active
  rw [brokerCancel, if_neg (by simp [hinit, hactive])]
  exact gaveUp h rfl rfl

omit h in
theorem brokerCancel_inactive (h : b.active = false) :
    (brokerCancel ops.traced b w).2 = (b, w) := by
  rw [brokerCancel, if_pos (.inr h)]

/-- A frame of the session goes out, or it does not and nothing was delivered. -/
theorem Live.emit {type : MessageType} (htype : type ≠ messageCancel) {payload : Octets}
    {sequence : BitVec 32}
    (hrun : uploadEmit ops.traced type payload sequence b w = (status, b', w')) :
    b'.view = b.view ∧ (∀ c ∈ w'.2, c.Plain requestId)
      ∧ ((status ≠ .ok ∧ delivered w'.2 = delivered w.2)
        ∨ (status = .ok ∧ delivered w'.2
          = delivered w.2 ++ [wireRecord (uploadFrame requestId type sequence) payload])) := by
  rw [uploadEmit, h.frame] at hrun
  obtain ⟨hview, ⟨hstatus, hlog⟩ | ⟨hadm, hlog⟩⟩ := emitFrame_attempt ops.toBrokerOps hrun
  · rw [hlog]
    exact ⟨hview, h.plain, .inl ⟨hstatus, rfl⟩⟩
  · refine ⟨hview, ?_, ?_⟩
    · intro c hc
      rw [hlog, List.mem_append, List.mem_singleton] at hc
      rcases hc with hc | rfl
      · exact h.plain c hc
      · exact send_plain hadm htype _
    · rw [hlog, delivered_append]
      by_cases hstatus : status = .ok
      · exact .inr ⟨hstatus, by rw [hstatus, delivered_send_ok]⟩
      · exact .inl ⟨hstatus, by rw [delivered_send_of_ne hstatus, List.append_nil]⟩

/-- The session with `k` records of the ciphertext sent. -/
structure Uploading (requestId : RequestId) (encodedRequest : Octets) (pieces : List Octets)
    (k : ℕ) (v : SessionView) (log : List TransportCall) : Prop
    extends Live requestId encodedRequest pieces v log where
  uploadMode : v.uploadMode = true
  notBulk : v.bulkMode = false
  sequence : v.uploadNextSequence = BitVec.ofNat 32 k
  sent : delivered log = (uploadRecordsOf requestId encodedRequest pieces).take (k + 1)

/-- Everything is sent. -/
structure AllSent (requestId : RequestId) (encodedRequest : Octets) (pieces : List Octets)
    (v : SessionView) (log : List TransportCall) : Prop
    extends Live requestId encodedRequest pieces v log where
  notBulk : v.bulkMode = false
  all : delivered log = uploadRecordsOf requestId encodedRequest pieces

variable {log : List TransportCall} {k : ℕ} {piece : Octets}

omit h

theorem Live.of_log {v v' : SessionView} {log' : List TransportCall}
    (h : Live requestId encodedRequest pieces v log) (hview : v' = { v with
      uploadNextSequence := v'.uploadNextSequence, uploadMode := v'.uploadMode
      uploadResponseReceived := v'.uploadResponseReceived })
    (hplain : ∀ c ∈ log', c.Plain requestId)
    (hfront : delivered log' <+: uploadRecordsOf requestId encodedRequest pieces) :
    Live requestId encodedRequest pieces v' log' := by
  rw [hview]
  exact { h with plain := hplain, front := hfront }

theorem uploadRecordsOf_data (hpiece : pieces[k]? = some piece) :
    (uploadRecordsOf requestId encodedRequest pieces).take (k + 1)
        ++ [dataRecord requestId k piece]
      = (uploadRecordsOf requestId encodedRequest pieces).take (k + 2) := by
  obtain ⟨hk, -⟩ := List.getElem?_eq_some_iff.mp hpiece
  have hget : (uploadRecordsOf requestId encodedRequest pieces)[k + 1]?
      = some (dataRecord requestId k piece) := by
    rw [uploadRecordsOf, List.cons_append, List.getElem?_cons_succ,
      List.getElem?_append_left (by simpa using hk), List.getElem?_mapIdx, hpiece]
    rfl
  rw [List.take_add_one (i := k + 1), hget]
  rfl

theorem uploadRecordsOf_complete :
    (uploadRecordsOf requestId encodedRequest pieces).take (pieces.length + 1)
        ++ [completeRecord requestId pieces.length]
      = uploadRecordsOf requestId encodedRequest pieces := by
  rw [uploadRecordsOf, List.take_left' (by simp)]

/-- The DATA record of a piece is out. -/
theorem Uploading.next (h : Uploading requestId encodedRequest pieces k b.view w.2)
    (hpiece : pieces[k]? = some piece) (hview : b'.view = b.view)
    (hplain : ∀ c ∈ w'.2, c.Plain requestId)
    (hsent : delivered w'.2 = delivered w.2 ++ [dataRecord requestId k piece]) :
    Uploading requestId encodedRequest pieces (k + 1)
      { b' with uploadNextSequence := b'.uploadNextSequence + 1#32 }.view w'.2 := by
  have hmore : delivered w'.2 = (uploadRecordsOf requestId encodedRequest pieces).take (k + 2) := by
    rw [hsent, h.sent]
    exact uploadRecordsOf_data hpiece
  have hsequence : b'.uploadNextSequence = BitVec.ofNat 32 k :=
    (congrArg SessionView.uploadNextSequence hview).trans h.sequence
  refine ⟨h.toLive.of_log ?_ hplain (hmore ▸ List.take_prefix _ _), ?_, ?_, ?_, hmore⟩
  · rw [← hview]
    rfl
  · exact (congrArg SessionView.uploadMode hview).trans h.uploadMode
  · exact (congrArg SessionView.bulkMode hview).trans h.notBulk
  · show b'.uploadNextSequence + 1#32 = _
    rw [hsequence, BitVec.ofNat_add]

/-- One piece: the DATA record, and COMPLETE behind the last. -/
theorem Uploading.records {finalRecord : Bool}
    (h : Uploading requestId encodedRequest pieces k b.view w.2)
    (hpiece : pieces[k]? = some piece) (hfinal : finalRecord = true ↔ k + 1 = pieces.length)
    (hrun : uploadRecords ops.traced piece finalRecord b w = (status, b', w')) :
    (status ≠ .ok ∧ Live requestId encodedRequest pieces b'.view w'.2)
      ∨ (status = .ok ∧ finalRecord = false
        ∧ Uploading requestId encodedRequest pieces (k + 1) b'.view w'.2)
      ∨ (status = .ok ∧ finalRecord = true
        ∧ AllSent requestId encodedRequest pieces b'.view w'.2) := by
  rw [uploadRecords, show b.uploadNextSequence = BitVec.ofNat 32 k from h.sequence] at hrun
  split at hrun <;> rename_i hemit <;>
    obtain ⟨hview, hplain, ⟨hne, hsame⟩ | ⟨hok, hgrown⟩⟩ := h.toLive.emit (by decide) hemit
  · exact absurd rfl hne
  · have hnext := h.next hpiece hview hplain hgrown
    simp only at hrun
    split_ifs at hrun with hlast
    · obtain ⟨hview', hplain', ⟨hne, hsame⟩ | ⟨hok, hgrown'⟩⟩ := hnext.toLive.emit (by decide) hrun
      · exact .inl ⟨hne, hnext.toLive.of_log (by rw [hview']) hplain' (hsame ▸ hnext.front)⟩
      · have hcount := hfinal.mp hlast
        have hall : delivered w'.2 = uploadRecordsOf requestId encodedRequest pieces := by
          rw [hgrown', hnext.sent, show _ + 1#32 = _ from hnext.sequence, hcount]
          exact uploadRecordsOf_complete
        refine .inr (.inr ⟨hok, hlast, ⟨?_, ?_, hall⟩⟩)
        · exact hnext.toLive.of_log (by rw [hview']) hplain' (hall ▸ List.prefix_rfl)
        · rw [hview']
          exact hnext.notBulk
    · cases hrun
      exact .inr (.inl ⟨rfl, by simpa using hlast, hnext⟩)
  · cases hrun
    exact .inl ⟨hne, h.toLive.of_log (by rw [hview]) hplain (hsame ▸ h.front)⟩
  · exact absurd hok ‹_›

/-- The upload is answered, and the session can be finished. -/
structure Answered (requestId : RequestId) (encodedRequest : Octets) (pieces : List Octets)
    (v : SessionView) (log : List TransportCall) : Prop
    extends AllSent requestId encodedRequest pieces v log where
  uploadMode : v.uploadMode = false
  received : v.uploadResponseReceived = true

variable {fuel : ℕ}

/-- The wait adds nothing but receives. -/
theorem AllSent.waited {result : Except Status Response}
    (h : AllSent requestId encodedRequest pieces b.view w.2)
    (hloop : receiveLoop ops.toBrokerOps.traced q fuel b w = some (result, b', w')) :
    AllSent requestId encodedRequest pieces b'.view w'.2 := by
  obtain ⟨hview, calls, hlog, hcalls⟩ := receiveLoop_asks ops.toBrokerOps q hloop
  have hplain : ∀ c ∈ w'.2, c.Plain requestId := by
    intro c hc
    rw [hlog, List.mem_append] at hc
    rcases hc with hc | hc
    · exact h.plain c hc
    · obtain ⟨status, rfl⟩ := hcalls c hc
      exact ⟨id, id⟩
  have hnone : delivered calls = [] := by
    refine List.filterMap_eq_nil_iff.mpr fun c hc => ?_
    obtain ⟨status, rfl⟩ := hcalls c hc
    rfl
  have hall : delivered w'.2 = uploadRecordsOf requestId encodedRequest pieces := by
    rw [hlog, delivered_append, hnone, List.append_nil]
    exact h.all
  rw [hview]
  exact ⟨h.toLive.of_log rfl hplain (hall ▸ List.prefix_rfl), h.notBulk, hall⟩

/-- The wait for the response leaves the session answered, or given up. -/
theorem AllSent.answer {result : Except Status (Option Response)}
    (h : AllSent requestId encodedRequest pieces b.view w.2)
    (hanswer : uploadAnswer ops.traced q fuel b w = some (result, b', w')) :
    (∃ status, status ≠ .ok ∧ result = .error status ∧ b'.active = false
        ∧ Aborted requestId encodedRequest pieces w'.2)
      ∨ (∃ response, result = .ok (some response)
        ∧ Answered requestId encodedRequest pieces b'.view w'.2) := by
  have hstate : b.initialized = true ∧ b.active = true ∧ b.bulkMode = false :=
    ⟨h.initialized, h.active, h.notBulk⟩
  have hwaiting : AllSent requestId encodedRequest pieces { b with uploadMode := false }.view w.2 :=
    ⟨h.toLive.of_log rfl h.plain h.front, h.notBulk, h.all⟩
  rw [uploadAnswer, brokerReceive, if_neg (by simp [hstate])] at hanswer
  split at hanswer <;> rename_i hloop
  · cases hanswer
  · refine .inl ((hwaiting.waited hloop).toLive.aborts ?_ hanswer)
    rintro rfl
    exact receiveLoop_ne_error_ok _ q hloop
  · have hwaited := hwaiting.waited hloop
    have hmode := congrArg SessionView.uploadMode (receiveLoop_asks ops.toBrokerOps q hloop).1
    cases hanswer
    exact .inr ⟨_, rfl, ⟨⟨hwaited.toLive.of_log rfl hwaited.plain hwaited.front, hwaited.notBulk,
      hwaited.all⟩, hmode, rfl⟩⟩

/-- A piece of the ciphertext: the next state of the session, or its end. -/
theorem Uploading.send {finalRecord : Bool} {result : Except Status (Option Response)}
    (h : Uploading requestId encodedRequest pieces k b.view w.2) (hpiece : pieces[k]? = some piece)
    (hne : piece ≠ []) (hfinal : finalRecord = true ↔ k + 1 = pieces.length)
    (hsend : uploadSend ops.traced q fuel piece finalRecord b w = some (result, b', w')) :
    (∃ status, status ≠ .ok ∧ result = .error status ∧ b'.active = false
        ∧ Aborted requestId encodedRequest pieces w'.2)
      ∨ (result = .ok none ∧ finalRecord = false
        ∧ Uploading requestId encodedRequest pieces (k + 1) b'.view w'.2)
      ∨ (∃ response, result = .ok (some response) ∧ finalRecord = true
        ∧ Answered requestId encodedRequest pieces b'.view w'.2) := by
  have hstate : b.initialized = true ∧ b.active = true ∧ b.uploadMode = true ∧ b.bulkMode = false :=
    ⟨h.initialized, h.active, h.uploadMode, h.notBulk⟩
  rw [uploadSend, if_neg (by simpa using hne), if_neg (by simp [hstate])] at hsend
  split at hsend
  · exact .inl (h.toLive.aborts (by decide) hsend)
  split at hsend <;> rename_i hemit <;>
    rcases h.records hpiece hfinal hemit with ⟨hst, hlive⟩ | ⟨hst, rfl, hmore⟩ | ⟨hst, rfl, hall⟩
  · exact absurd rfl hst
  · cases hsend
    exact .inr (.inl ⟨rfl, rfl, hmore⟩)
  · rcases hall.answer hsend with hfailed | ⟨response, hresult, hanswered⟩
    · exact .inl hfailed
    · exact .inr (.inr ⟨response, hresult, rfl, hanswered⟩)
  · exact .inl (hlive.aborts hst hsend)
  · exact absurd hst ‹_›
  · exact absurd hst ‹_›

/-- A broker between two sessions. -/
structure Idle (v : SessionView) : Prop where
  opened : v.opened = false
  active : v.active = false
  notBulk : v.bulkMode = false
  room : 42 ≤ v.encodedCap ∧ 40 ≤ v.rawScratchCap

/-- Opening and closing the transport sends nothing. -/
theorem Unsent.snoc (h : Unsent log) {call : TransportCall}
    (hcall : (∃ status, call = .openTransport status) ∨ ∃ status, call = .closeTransport status) :
    Unsent (log ++ [call]) := by
  intro c hc
  rw [List.mem_append, List.mem_singleton] at hc
  rcases hc with hc | rfl
  · exact h c hc
  · exact hcall

theorem Unsent.plain (h : Unsent log) (requestId : RequestId) :
    ∀ c ∈ log, c.Plain requestId := by
  intro c hc
  rcases h c hc with ⟨status, rfl⟩ | ⟨status, rfl⟩ <;> exact ⟨id, id⟩

theorem Unsent.delivered (h : Unsent log) : delivered log = [] := by
  refine List.filterMap_eq_nil_iff.mpr fun c hc => ?_
  rcases h c hc with ⟨status, rfl⟩ | ⟨status, rfl⟩ <;> rfl

/-- How a session that never got to its records ends. -/
def GivenUp (requestId : RequestId) (encodedRequest : Octets) (pieces : List Octets)
    (log : List TransportCall) : Prop :=
  Unsent log ∨ Aborted requestId encodedRequest pieces log

/-- Giving up before the first REQUEST only closes the transport. -/
theorem abandonSession_unsent {primary : Status}
    (hrun : abandonSession ops.traced.toBrokerOps primary b w = (status, b', w'))
    (hopened : b.opened = true) (hlog : Unsent w.2) (hne : primary ≠ .ok) :
    status ≠ .ok ∧ b'.active = false ∧ GivenUp requestId encodedRequest pieces w'.2 := by
  obtain ⟨hactive, hclosed⟩ := finishSession_closed hopened
    (rfl : finishSession ops.traced.toBrokerOps false b w = _)
  cases hrun
  refine ⟨hne, hactive, .inl ?_⟩
  rw [hclosed]
  exact hlog.snoc (.inr ⟨_, rfl⟩)

/-- From the open transport on: the REQUEST is sent, or the session is given up. -/
theorem uploadOpen_uploading
    (hrun : uploadOpen ops.traced servicePlatformAttestation encodedRequest b w = (status, b', w'))
    (hopened : b.opened = true) (hinit : b.initialized = true)
    (hbulk : b.bulkMode = false) (hid : b.requestId = requestId)
    (hroom : 42 ≤ b.view.encodedCap ∧ 40 ≤ b.view.rawScratchCap) (hlog : Unsent w.2) :
    (status ≠ .ok ∧ b'.active = false ∧ GivenUp requestId encodedRequest pieces w'.2)
      ∨ (status = .ok ∧ Uploading requestId encodedRequest pieces 0 b'.view w'.2) := by
  rw [uploadOpen] at hrun
  split at hrun
  · rename_i w₁ hquery
    obtain ⟨hw, ⟨hne, -⟩ | ⟨-, -, hvalid, rfl⟩⟩ := queryEffectiveLimits_cases hquery
    · exact absurd rfl hne
    have hlog₁ : Unsent w₁.2 := hw ▸ hlog
    split at hrun
    · exact .inl (abandonSession_unsent hrun hopened hlog₁ (by decide))
    rename_i hlimit
    simp only at hrun hlimit
    split at hrun
    · exact .inl (abandonSession_unsent hrun hopened hlog₁ (by decide))
    obtain ⟨hcontrol, -, -⟩ := limitsAreValid_iff.mp hvalid
    have hfront : delivered w₁.2 <+: uploadRecordsOf requestId encodedRequest pieces := by
      rw [hlog₁.delivered]
      exact List.nil_prefix
    -- the session is active from here on, before its REQUEST is sent
    have hlive : ∀ limits stream, Live requestId encodedRequest pieces (Broker.view { b with
        limits, stream, service := servicePlatformAttestation, uploadMode := true
        uploadNextSequence := 0#32, active := true }) w₁.2 := by
      intro limits stream
      refine ⟨hinit, hopened, rfl, rfl, hid, hroom, ?_, hlog₁.plain requestId, hfront⟩
      show encodedRequest.length ≤ 65536
      omega
    split at hrun <;> rename_i hemit <;>
      obtain ⟨hview, hplain, ⟨hne, hsame⟩ | ⟨hok, hsent⟩⟩ := (hlive _ _).emit (by decide) hemit
    · exact absurd rfl hne
    · cases hrun
      have hfirst : delivered w'.2 = (uploadRecordsOf requestId encodedRequest pieces).take 1 := by
        rw [hsent, hlog₁.delivered]
        rfl
      rw [hview]
      exact .inr ⟨rfl, (hlive _ _).of_log rfl hplain (hfirst ▸ List.take_prefix _ _), rfl, hbulk, rfl,
        hfirst⟩
    · rename_i b₃ w₃ _
      have haborting : Live requestId encodedRequest pieces b₃.view w₃.2 :=
        (hlive _ _).of_log (by rw [hview]) hplain (hsame ▸ hfront)
      have hactive : b₃.active = true := haborting.active
      rw [abortUploadSession, if_pos hactive] at hrun
      cases hrun
      obtain ⟨hinactive, haborted⟩ := gaveUp haborting rfl rfl
      exact .inl ⟨hne, hinactive, .inr haborted⟩
    · exact absurd hok ‹_›
  · rename_i w₁ hne hquery
    obtain ⟨hw, ⟨-, rfl⟩ | ⟨hok, -⟩⟩ := queryEffectiveLimits_cases hquery
    · have hlog₁ : Unsent w₁.2 := hw ▸ hlog
      exact .inl (abandonSession_unsent hrun hopened hlog₁ hne)
    · exact absurd hok hne

/-- The start of a session: the REQUEST is sent, or the session is given up. -/
theorem uploadBegin_begun (hidle : Idle b.view) (hempty : w.2 = []) {timeoutMs : BitVec 32}
    (hrun : uploadBegin ops.traced servicePlatformAttestation requestId encodedRequest timeoutMs b w
      = (status, b', w')) :
    (status ≠ .ok ∧ b'.active = false ∧ GivenUp requestId encodedRequest pieces w'.2)
      ∨ (status = .ok ∧ Uploading requestId encodedRequest pieces 0 b'.view w'.2) := by
  have hnothing : Unsent w.2 := by
    rw [hempty]
    exact fun c hc => absurd hc (by simp)
  rw [uploadBegin] at hrun
  split_ifs at hrun with harg hstate hservice
  · cases hrun
    exact .inl ⟨by decide, hidle.active, .inl hnothing⟩
  · cases hrun
    exact .inl ⟨by decide, hidle.active, .inl hnothing⟩
  · cases hrun
    exact .inl ⟨by decide, hidle.active, .inl hnothing⟩
  have hlog := beginDeadline_traced ops timeoutMs { wipeRequestStorage false b with
    reader := recordReaderReset b.reader, requestId } w
  simp only at hrun
  split at hrun <;> rename_i w₁ hdeadline <;> rw [hdeadline] at hlog
  · obtain ⟨deadlineMs, rfl⟩ := beginDeadline_ok hdeadline
    have hquiet : Unsent w₁.2 := hlog ▸ hnothing
    -- whatever the transport says, opening it is all that happened
    have hopened : ∀ {status : Status} {w₂ : σ × List TransportCall},
        ops.traced.openTransport w₁ = (status, w₂) → Unsent w₂.2 := by
      rintro status w₂ ⟨⟩
      exact hquiet.snoc (.inl ⟨_, rfl⟩)
    split at hrun <;> rename_i hopen
    · have hcap : (wipeRequestStorage false b).storage.encoded.length = b.view.encodedCap :=
        List.length_replicate
      have hinit : b.initialized = true := by simp_all
      exact uploadOpen_uploading hrun rfl hinit hidle.notBulk rfl
        ⟨Nat.le_trans hidle.room.1 (Nat.le_of_eq hcap.symm), hidle.room.2⟩ (hopened hopen)
    · cases hrun
      exact .inl ⟨‹_›, hidle.active, .inl (hopened hopen)⟩
  · obtain rfl := beginDeadline_failed ‹_› hdeadline
    cases hrun
    exact .inl ⟨‹_›, hidle.active, .inl (hlog ▸ hnothing)⟩

/-! ### The wrapper -/

/-- The upload object before its session and during it, with `k` records sent. -/
structure AttestationUpload.Going (upload : AttestationUpload) (requestId : RequestId)
    (encodedRequest : Octets) (k : ℕ) : Prop where
  id : upload.requestId = requestId
  request : upload.encodedRequest = encodedRequest
  sequence : upload.nextSequence = BitVec.ofNat 32 k
  unanswered : upload.responseReceived = false
  unfinished : upload.finished = false
  uncancelled : upload.cancelled = false

/-- Where an upload stands in front of record `k`. -/
def InFront (requestId : RequestId) (encodedRequest : Octets) (pieces : List Octets) (k : ℕ)
    (upload : AttestationUpload) (b : Broker) (log : List TransportCall) : Prop :=
  upload.Going requestId encodedRequest k
    ∧ ((upload.started = true ∧ Uploading requestId encodedRequest pieces k b.view log)
      ∨ (k = 0 ∧ upload.started = false ∧ Idle b.view ∧ log = []))

/-- A submission that failed: the session is over, or the run still has to give it up. -/
def SubmitFailed (requestId : RequestId) (encodedRequest : Octets) (pieces : List Octets)
    (upload : AttestationUpload) (b : Broker) (log : List TransportCall) : Prop :=
  upload.finished = false
    ∧ (((upload.started = false ∨ upload.cancelled = true)
        ∧ GivenUp requestId encodedRequest pieces log)
      ∨ (upload.started = true ∧ upload.cancelled = false
        ∧ Live requestId encodedRequest pieces b.view log))

/-- A submission that succeeded. -/
def SubmitDone (requestId : RequestId) (encodedRequest : Octets) (pieces : List Octets)
    (upload : AttestationUpload) (b : Broker) (log : List TransportCall) : Prop :=
  upload.started = true ∧ upload.responseReceived = true ∧ upload.finished = false
    ∧ upload.cancelled = false ∧ Answered requestId encodedRequest pieces b.view log

variable {upload upload' : AttestationUpload}

section Abort

variable {primary : Status}
  (habort : abortUpload ops.traced primary upload b w = (status, upload', b', w'))

include habort

/-- `abort_upload` on a session the broker has ended already. -/
theorem abortUpload_ended (hinactive : b.active = false) (hstarted : upload.started = true)
    (hunfinished : upload.finished = false)
    (hgiven : GivenUp requestId encodedRequest pieces w.2) :
    status = primary ∧ SubmitFailed requestId encodedRequest pieces upload' b' w'.2 := by
  rw [abortUpload] at habort
  split_ifs at habort with hopen
  · -- the broker refuses the second cancellation
    have hsame : (brokerCancel ops.traced b w).2 = (b, w) := brokerCancel_inactive hinactive
    simp only [hsame] at habort
    cases habort
    exact ⟨rfl, hunfinished, .inl ⟨.inr rfl, hgiven⟩⟩
  · cases habort
    exact ⟨rfl, hunfinished, .inl ⟨.inr (by simp_all), hgiven⟩⟩

/-- `abort_upload` on a live session. -/
theorem abortUpload_live (h : Live requestId encodedRequest pieces b.view w.2)
    (hstarted : upload.started = true) (hunfinished : upload.finished = false)
    (huncancelled : upload.cancelled = false) :
    status = primary ∧ SubmitFailed requestId encodedRequest pieces upload' b' w'.2 := by
  have haborted : Aborted requestId encodedRequest pieces (brokerCancel ops.traced b w).2.2.2 :=
    (brokerCancel_aborted h).2
  rw [abortUpload, if_pos (by simp [hstarted, hunfinished, huncancelled])] at habort
  cases habort
  exact ⟨rfl, hunfinished, .inl ⟨.inr rfl, .inr haborted⟩⟩

end Abort

/-- One record of the ciphertext through the wrapper, in a session that is there. -/
theorem uploadRecord_sent {k : ℕ} {piece : Octets} {finalRecord : Bool}
    (hgoing : upload.Going requestId encodedRequest k) (hstarted : upload.started = true)
    (h : Uploading requestId encodedRequest pieces k b.view w.2) (hpiece : pieces[k]? = some piece)
    (hne : piece ≠ []) (hfinal : finalRecord = true ↔ k + 1 = pieces.length)
    (hsend : uploadRecord ops.traced q fuel piece finalRecord upload b w
      = some (status, upload', b', w')) :
    (status ≠ .ok ∧ SubmitFailed requestId encodedRequest pieces upload' b' w'.2)
      ∨ (status = .ok ∧ finalRecord = false
        ∧ InFront requestId encodedRequest pieces (k + 1) upload' b' w'.2)
      ∨ (status = .ok ∧ finalRecord = true
        ∧ SubmitDone requestId encodedRequest pieces upload' b' w'.2) := by
  rw [uploadRecord] at hsend
  rcases hupload : uploadSend ops.traced q fuel piece finalRecord b w with _ | ⟨result, b₁, w₁⟩ <;>
    rw [hupload] at hsend
  · cases hsend
  rcases h.send hpiece hne hfinal hupload with
    ⟨st, hst, rfl, hinactive, haborted⟩ | ⟨rfl, rfl, hmore⟩ | ⟨response, rfl, rfl, hanswered⟩
  · obtain ⟨rfl, hfailed⟩ := abortUpload_ended (Option.some.inj hsend) hinactive hstarted
      hgoing.unfinished (.inr haborted)
    exact .inl ⟨hst, hfailed⟩
  · cases hsend
    refine .inr (.inl ⟨rfl, rfl, { hgoing with sequence := ?_ }, .inl ⟨hstarted, hmore⟩⟩)
    show upload.nextSequence + 1#32 = _
    rw [hgoing.sequence, BitVec.ofNat_add]
  · simp only [Bool.true_eq_false, if_false] at hsend
    split at hsend
    · cases hsend
      exact .inr (.inr ⟨rfl, rfl, hstarted, rfl, hgoing.unfinished, hgoing.uncancelled, hanswered⟩)
    · obtain ⟨rfl, hfailed⟩ := abortUpload_live (Option.some.inj hsend) hanswered.toLive hstarted
        hgoing.unfinished hgoing.uncancelled
      exact .inl ⟨by simp, hfailed⟩

/-- What the run does around the upload does not touch the transport. -/
def RunOps.traced (run : RunOps σ) : RunOps (σ × List TransportCall) where
  gate w := let (status, remaining, s) := run.gate w.1; (status, remaining, s, w.2)
  verify payload w := let (status, s) := run.verify payload w.1; (status, s, w.2)

variable {run : RunOps σ}

theorem RunOps.gate_traced {remaining : BitVec 32}
    (h : run.traced.gate w = (status, remaining, w')) : w'.2 = w.2 := by
  cases h
  rfl

theorem RunOps.verify_traced {payload : Octets} (h : run.traced.verify payload w = (status, w')) :
    w'.2 = w.2 := by
  cases h
  rfl

/-- Nothing has happened to an upload in front of a record but what its state shows. -/
theorem InFront.stopped (h : InFront requestId encodedRequest pieces k upload b log) :
    SubmitFailed requestId encodedRequest pieces upload b log := by
  obtain ⟨hgoing, ⟨hstarted, huploading⟩ | ⟨-, hnot, -, rfl⟩⟩ := h
  · exact ⟨hgoing.unfinished, .inr ⟨hstarted, hgoing.uncancelled, huploading.toLive⟩⟩
  · exact ⟨hgoing.unfinished, .inl ⟨.inl hnot, .inl fun c hc => absurd hc (by simp)⟩⟩

/-- One record of the ciphertext, from the gate on. -/
theorem InFront.send {k : ℕ} {piece : Octets} {finalRecord : Bool}
    (h : InFront requestId encodedRequest pieces k upload b w.2) (hpiece : pieces[k]? = some piece)
    (hne : piece ≠ []) (hfinal : finalRecord = true ↔ k + 1 = pieces.length)
    (hsend : sendWithGate ops.traced q run.traced fuel requestId (BitVec.ofNat 32 k) piece
      finalRecord upload b w = some (status, upload', b', w')) :
    (status ≠ .ok ∧ SubmitFailed requestId encodedRequest pieces upload' b' w'.2)
      ∨ (status = .ok ∧ finalRecord = false
        ∧ InFront requestId encodedRequest pieces (k + 1) upload' b' w'.2)
      ∨ (status = .ok ∧ finalRecord = true
        ∧ SubmitDone requestId encodedRequest pieces upload' b' w'.2) := by
  rw [sendWithGate] at hsend
  split at hsend <;> rename_i hgate <;> rw [← RunOps.gate_traced hgate] at h
  swap
  · -- the gate stops the run in front of the record
    cases hsend
    exact .inl ⟨‹_›, h.stopped⟩
  rename_i remaining w₁
  obtain ⟨hgoing, hwhere⟩ := h
  simp only at hsend
  generalize hupload : (if upload.started = true then upload
    else { upload with timeoutMs := remaining }) = upload₁ at hsend
  have hstarted₁ : upload₁.started = upload.started := by
    rw [← hupload]
    split_ifs <;> rfl
  have hgoing₁ : upload₁.Going requestId encodedRequest k := by
    rw [← hupload]
    split_ifs
    · exact hgoing
    · exact { hgoing with }
  rw [attestationUploadSend, if_neg (by simp [hgoing₁.unfinished, hgoing₁.uncancelled,
    hgoing₁.unanswered, hgoing₁.sequence, hgoing₁.id])] at hsend
  rcases hwhere with ⟨hstarted, huploading⟩ | ⟨rfl, hnot, hidle, hlog⟩
  · rw [hstarted] at hstarted₁
    split_ifs at hsend
    · obtain ⟨rfl, hfailed⟩ := abortUpload_live (Option.some.inj hsend) huploading.toLive hstarted₁
        hgoing₁.unfinished hgoing₁.uncancelled
      exact .inl ⟨by simp, hfailed⟩
    · exact uploadRecord_sent hgoing₁ hstarted₁ huploading hpiece hne hfinal hsend
  · -- the first record opens the session
    rw [hnot] at hstarted₁
    rw [if_neg (by rw [hgoing₁.sequence]; decide), if_neg (by simp [hstarted₁])] at hsend
    obtain rfl : upload₁.encodedRequest = encodedRequest := hgoing₁.request
    split at hsend <;> rename_i hbegin <;>
      rcases uploadBegin_begun hidle hlog hbegin with ⟨hst, -, hgiven⟩ | ⟨hst, huploading⟩
    · exact absurd rfl hst
    · refine uploadRecord_sent ?_ ?_ huploading hpiece hne hfinal hsend
      · exact { hgoing₁ with }
      · rfl
    · cases hsend
      exact .inl ⟨hst, hgoing₁.unfinished, .inl ⟨.inl hstarted₁, hgiven⟩⟩
    · exact absurd hst ‹_›

/-- The loop over the records, from record `k` on. -/
theorem submitRecords_ended (hpieces : ∀ piece ∈ pieces, piece ≠ []) {rest : List Octets}
    (hrest : rest = pieces.drop k) (hnonempty : rest ≠ [])
    (h : InFront requestId encodedRequest pieces k upload b w.2)
    (hsubmit : submitRecords ops.traced q run.traced fuel requestId rest (BitVec.ofNat 32 k) upload b w
      = some (status, upload', b', w')) :
    (status ≠ .ok ∧ SubmitFailed requestId encodedRequest pieces upload' b' w'.2)
      ∨ (status = .ok ∧ SubmitDone requestId encodedRequest pieces upload' b' w'.2) := by
  induction rest generalizing k upload b w with
  | nil => exact absurd rfl hnonempty
  | cons piece rest ih =>
    have hpiece : pieces[k]? = some piece := by
      rw [← List.head?_drop, ← hrest]
      rfl
    have htail : rest = pieces.drop (k + 1) := by
      rw [← List.tail_drop, ← hrest]
      rfl
    have hfinal : rest.isEmpty = true ↔ k + 1 = pieces.length := by
      obtain ⟨hk, -⟩ := List.getElem?_eq_some_iff.mp hpiece
      rw [List.isEmpty_iff, htail, List.drop_eq_nil_iff]
      omega
    have hpiece_ne : piece ≠ [] := hpieces piece (List.mem_of_getElem? hpiece)
    rw [submitRecords] at hsubmit
    split at hsubmit
    · cases hsubmit
    · rename_i hsend
      rcases h.send hpiece hpiece_ne hfinal hsend with ⟨hst, -⟩ | ⟨-, hmore, hfront⟩ | ⟨-, hlast, hdone⟩
      · exact absurd rfl hst
      · simp only [hmore, Bool.false_eq_true, if_false] at hsubmit
        split at hsubmit
        · cases hsubmit
          exact .inl ⟨by decide, hfront.stopped⟩
        · rw [← BitVec.ofNat_add] at hsubmit
          exact ih htail (by simpa [List.isEmpty_iff] using hmore) hfront hsubmit
      · rw [if_pos hlast] at hsubmit
        cases hsubmit
        exact .inr ⟨rfl, hdone⟩
    · rename_i hne hsend
      cases hsubmit
      rcases h.send hpiece hpiece_ne hfinal hsend with hfailed | ⟨hst, -⟩ | ⟨hst, -⟩
      · exact .inl hfailed
      · exact absurd hst hne
      · exact absurd hst hne

/-- The end of a run whose submission failed. -/
theorem leaveUpload_failed {primary : Status} (hne : primary ≠ .ok)
    (h : SubmitFailed requestId encodedRequest pieces upload b w.2)
    (hrun : leaveUpload ops.traced primary upload b w = (status, upload', b', w')) :
    status ≠ .ok ∧ upload'.finished = false ∧ GivenUp requestId encodedRequest pieces w'.2 := by
  obtain ⟨hunfinished, hwhere⟩ := h
  rw [leaveUpload] at hrun
  rcases hwhere with ⟨hover, hgiven⟩ | ⟨hstarted, huncancelled, hlive⟩
  · rw [if_neg] at hrun
    · cases hrun
      exact ⟨hne, hunfinished, hgiven⟩
    · rintro ⟨-, hstarted, -, huncancelled⟩
      rcases hover with hnot | hcancelled
      · cases hnot.symm.trans hstarted
      · cases hcancelled.symm.trans huncancelled
  · rw [if_pos ⟨hne, hstarted, hunfinished, huncancelled⟩, attestationUploadCancel,
      if_neg (by simp [hstarted, hunfinished, huncancelled])] at hrun
    have haborted : Aborted requestId encodedRequest pieces (brokerCancel ops.traced b w).2.2.2 :=
      (brokerCancel_aborted hlive).2
    cases hrun
    exact ⟨hne, hunfinished, .inr haborted⟩

/-- The end of a run whose submission was answered. -/
theorem settleUpload_done (h : SubmitDone requestId encodedRequest pieces upload b w.2)
    (hrun : settleUpload ops.traced run.traced .ok upload b w = (status, upload', b', w')) :
    (status ≠ .ok ∧ upload'.finished = false ∧ GivenUp requestId encodedRequest pieces w'.2)
      ∨ (upload'.finished = true ∧ Finished requestId encodedRequest pieces w'.2) := by
  obtain ⟨hstarted, hreceived, hunfinished, huncancelled, hanswered⟩ := h
  rw [settleUpload] at hrun
  simp only [hreceived, Bool.true_eq_false, and_false, if_false, ne_eq, not_true] at hrun
  split at hrun <;> rename_i hverify
  · rename_i w₁
    have hstate : b.initialized = true ∧ b.active = true ∧ b.uploadMode = false
        ∧ b.uploadResponseReceived = true :=
      ⟨hanswered.initialized, hanswered.active, hanswered.uploadMode, hanswered.received⟩
    obtain ⟨-, hclosed⟩ := finishSession_closed hanswered.opened
      (rfl : finishSession ops.traced.toBrokerOps false b w₁ = _)
    rw [RunOps.verify_traced hverify] at hclosed
    rw [attestationUploadFinish, if_neg (by simp [hstarted, hreceived, hunfinished, huncancelled]),
      uploadFinish, if_neg (by simp [hstate])] at hrun
    -- a finished upload is left alone, whatever the close says
    rw [leaveUpload, if_neg (by simp)] at hrun
    cases hrun
    exact .inr ⟨rfl, hanswered.request, w.2, _, hclosed, hanswered.plain, hanswered.all⟩
  · -- the response is not accepted
    refine .inl (leaveUpload_failed ‹_› ⟨hunfinished, .inr ⟨hstarted, huncancelled, ?_⟩⟩ hrun)
    rw [RunOps.verify_traced hverify]
    exact hanswered.toLive

/-- The ways a run ends: nothing was sent, or the session was given up, or it was finished. -/
theorem uploadRun_ended {timeoutMs : BitVec 32} {s : σ} (hidle : Idle b.view) (hne : pieces ≠ [])
    (hpieces : ∀ piece ∈ pieces, piece ≠ []) (h : uploadRun ops.traced q run.traced fuel pieces
      (newUpload requestId encodedRequest timeoutMs) b (s, []) = some (status, upload', b', w')) :
    (status ≠ .ok ∧ upload'.finished = false ∧ GivenUp requestId encodedRequest pieces w'.2)
      ∨ (upload'.finished = true ∧ Finished requestId encodedRequest pieces w'.2) := by
  have hfront : InFront requestId encodedRequest pieces 0
      (newUpload requestId encodedRequest timeoutMs) b [] :=
    ⟨⟨rfl, rfl, rfl, rfl, rfl, rfl⟩, .inr ⟨rfl, rfl, hidle, rfl⟩⟩
  rw [uploadRun] at h
  split at h <;> rename_i hsubmit
  · cases h
  · have hsettled := Option.some.inj h
    rcases submitRecords_ended (w := (s, [])) hpieces List.drop_zero.symm hne hfront hsubmit with
      ⟨hst, hfailed⟩ | ⟨rfl, hdone⟩
    · simp only [settleUpload, hst, false_and, if_false, ne_eq, not_false_eq_true, if_true] at hsettled
      exact .inl (leaveUpload_failed hst hfailed hsettled)
    · exact settleUpload_done hdone hsettled

end Session

end Pbns
