/-
A request and its answer (`broker_request` and `pbns_broker_receive` of `src/core/broker.c`).

The outside is an `Exchange`: the peer's octets in whatever pieces the transport hands them
out, and the records sent to it.  `Answer` says what the first record of the peer's stream
makes of the request; it does not mention buffers, pieces or the reader.

* `receiveRecord_answer` — a complete record is answered as `Answer` says;
* `receiveLoop_exchange`, `receiveLoop_exchange_returns` — the wait ends with the first record,
  or with the end of the stream;
* `requestAnswer_exchange` — closing the session changes nothing about the answer;
* `request_response` — the whole call.
-/
import Pbns.BrokerLifecycle

namespace Pbns

open Octets Guard

/-! ### The outside -/

/-- How the outside behaves: the clock, how the operations end, the limits of the transport,
what the random source draws and what a receive says behind the peer's last octets. -/
structure Setting where
  clock : ℕ → BitVec 64
  opening : Status
  limiting : Status
  limits : FrameLimits
  drawing : Status
  drawn : RequestId
  sending : Status
  cancelling : Status
  ending : Status

/-- The future of the transport (`none`: nothing yet), the records sent and the number of
clock readings. -/
structure Exchange where
  arrivals : List (Option Octets)
  sent : List Octets
  ticks : ℕ

/-- Everything the peer will still send. -/
def Exchange.bytes (w : Exchange) : Octets := w.arrivals.flatMap (·.getD [])

/-- Every arrival is something, and fits the receive buffer. -/
def Exchange.Fits (w : Exchange) (cap : ℕ) : Prop :=
  ∀ chunk, some chunk ∈ w.arrivals → chunk ≠ [] ∧ chunk.length ≤ cap

def exchangeOps (s : Setting) : SessionOps Exchange where
  monotonicMs w := (.ok, s.clock w.ticks, { w with ticks := w.ticks + 1 })
  openTransport w := (s.opening, w)
  closeTransport w := (.ok, w)
  send record _ w := (s.sending, if s.sending = .ok then { w with sent := w.sent ++ [record] } else w)
  receive _ _ w :=
    match w.arrivals with
    | [] => (s.ending, [], w)
    | none :: arrivals => (.errWouldBlock, [], { w with arrivals })
    | some chunk :: arrivals => (.ok, chunk, { w with arrivals })
  limits w := (s.limiting, s.limits, w)
  random w := (s.drawing, s.drawn, w)
  cancel _ w := (s.cancelling, w)

/-- The status of a receive that finds the end of the stream. -/
def Setting.endStatus (s : Setting) : Status := if s.ending = .ok then .errTransport else s.ending

/-! ### The answer to a request -/

/-- What the frame of an answer looks like. -/
def answerFrame (service : ServiceId) (requestId : RequestId) (type : MessageType) : Frame :=
  ⟨service, type, 0#8, requestId, 0#32⟩

/-- What the record `t` makes of the request `requestId` to `service`. -/
structure Answer (limits : FrameLimits) (rawScratchCap : ℕ) (service : ServiceId)
    (requestId : RequestId) (t : Octets) (result : Except Status Response) : Prop where
  /-- The call succeeds exactly on the RESPONSE to the request, and returns it. -/
  response : ∀ r, result = .ok r ↔ frameDecode t limits rawScratchCap = .ok (r.frame, r.payload) ∧
    r.frame = answerFrame service requestId messageResponse
  /-- A report of an error is returned as its code. -/
  report : ∀ payload code,
    frameDecode t limits rawScratchCap = .ok (answerFrame service requestId messageError, payload) →
    IsReport service code payload → result = .error (Status.ofCode code)
  /-- An ERROR that is no report is refused as such. -/
  garbled : ∀ payload,
    frameDecode t limits rawScratchCap = .ok (answerFrame service requestId messageError, payload) →
    (∀ code, ¬ IsReport service code payload) →
    result = .error .errFormat ∨ result = .error .errService ∨ result = .error .errLimit
  notOk : result ≠ .error .ok

/-- The stream of a request that was just sent. -/
def freshStream (limits : FrameLimits) (service : ServiceId) (requestId : RequestId) : StreamState :=
  { streamZero with
    service, requestId, byteLimit := limits.controlPayloadMax, initialized := true }

/-- The broker waits for the answer to a request. -/
structure Waiting (limits : FrameLimits) (service : ServiceId) (requestId : RequestId) (b : Broker) :
    Prop where
  limitsEq : b.limits = limits
  serviceEq : b.service = service
  requestIdEq : b.requestId = requestId
  stream : b.stream = freshStream limits service requestId
  limitsValid : limitsAreValid limits = true
  controlFits : limits.controlPayloadMax ≤ b.storage.decodedCap
  recordFits : limits.encodedRecordMax ≤ b.storage.encoded.length
  deadlineActive : b.deadlineActive = true

section Record

variable {δ : Type} (q : Qcbor δ) {limits : FrameLimits} {service : ServiceId}
  {requestId : RequestId} {b : Broker}
variable {frame : Frame} {payload : Octets}

theorem Admissible.control_length_le (h : Admissible limits frame payload)
    (ht : frame.type = messageResponse ∨ frame.type = messageError) :
    payload.length ≤ limits.controlPayloadMax := by
  have := h.payload
  rcases ht with ht | ht
  · rwa [PayloadAllowed, ht, if_neg (by decide), if_neg (by decide), if_neg (by decide)] at this
  · rwa [PayloadAllowed, ht, if_neg (by decide), if_neg (by decide), if_neg (by decide)] at this

/-- The fresh stream takes the two kinds of answer to its request. -/
theorem expected_answer {type : MessageType} (hvalid : limitsAreValid limits = true)
    (hadm : Admissible limits (answerFrame service requestId type) payload)
    (ht : type = messageResponse ∨ type = messageError) :
    Expected (freshStream limits service requestId) (answerFrame service requestId type) payload := by
  have hlen := hadm.control_length_le ht
  obtain ⟨hmax, -, -⟩ := limitsAreValid_iff.mp hvalid
  have hle : payload.length ≤ controlPayloadMax := Nat.le_trans hlen hmax
  have hpayload : (validatePayload type payload).1 = .ok := by
    rcases ht with rfl | rfl
    · rw [validatePayload, if_pos (by decide), if_pos hle]
    · rw [validatePayload, if_neg (by decide), if_neg (by decide), if_neg (by decide), if_pos rfl,
        if_pos hle]
  refine ⟨rfl, rfl, rfl, rfl, rfl, rfl, rfl, by simp [freshStream, streamZero, uint32Max], hpayload, ?_⟩
  simp only [freshStream, streamZero, uint64Max]
  omega

/-- And what it takes is numbered 0 and belongs to its request. -/
theorem eq_answerFrame_of_expected
    (h : Expected (freshStream limits service requestId) frame payload) :
    frame = answerFrame service requestId frame.type := by
  rcases frame with ⟨frameService, type, flags, frameId, sequence⟩
  obtain ⟨-, -, -, hservice, hid, hflags, hseq, -, -, -⟩ := h
  simp only [freshStream, streamZero] at hservice hid hflags hseq
  simp only [answerFrame, hservice, hid, hflags, hseq]

/-- `Answer` for a record that decodes. -/
theorem Answer.of_decoded {rawScratchCap : ℕ} {t : Octets} {result : Except Status Response}
    (hdec : frameDecode t limits rawScratchCap = .ok (frame, payload))
    (hresponse : ∀ r, result = .ok r ↔
      frame = answerFrame service requestId messageResponse ∧ r = ⟨frame, payload⟩)
    (hreport : frame = answerFrame service requestId messageError → ∀ code,
      IsReport service code payload → result = .error (Status.ofCode code))
    (hgarbled : frame = answerFrame service requestId messageError →
      (∀ code, ¬ IsReport service code payload) →
      result = .error .errFormat ∨ result = .error .errService ∨ result = .error .errLimit)
    (hne : result ≠ .error .ok) :
    Answer limits rawScratchCap service requestId t result := by
  refine ⟨?_, ?_, ?_, hne⟩
  · rintro ⟨f, p⟩
    rw [hresponse, hdec]
    constructor
    · rintro ⟨hframe, heq⟩
      obtain ⟨rfl, rfl⟩ := Response.mk.inj heq
      exact ⟨rfl, hframe⟩
    · rintro ⟨heq, hframe⟩
      obtain ⟨rfl, rfl⟩ := Prod.mk.inj (Except.ok.inj heq)
      exact ⟨hframe, rfl⟩
  · intro p code heq hrep
    obtain ⟨hframe, rfl⟩ := Prod.mk.inj (Except.ok.inj (hdec.symm.trans heq))
    exact hreport hframe code hrep
  · intro p heq hrep
    obtain ⟨hframe, rfl⟩ := Prod.mk.inj (Except.ok.inj (hdec.symm.trans heq))
    exact hgarbled hframe hrep

/-- The status of an ERROR for the request. -/
theorem decodeRemoteError_eq (service : ServiceId) (hq : q.Correct) {decodedCap : ℕ}
    (hcap : payload.length ≤ decodedCap) :
    (∀ code, IsReport service code payload →
      decodeRemoteError q decodedCap payload service = Status.ofCode code) ∧
    ((∀ code, ¬ IsReport service code payload) →
      decodeRemoteError q decodedCap payload service = .errFormat ∨
      decodeRemoteError q decodedCap payload service = .errService ∨
      decodeRemoteError q decodedCap payload service = .errLimit) := by
  constructor
  · intro code hreport
    rw [decodeRemoteError, remoteErrorCode_of_isReport q hq hreport hcap]
  · intro hnone
    rw [decodeRemoteError]
    rcases hcode : remoteErrorCode q decodedCap payload service with status | code
    · exact remoteErrorCode_failsOnly q decodedCap payload service status hcode
    · exact absurd (isReport_of_remoteErrorCode q hcode) (hnone code)

/-- What an accepted frame makes of the request. -/
theorem receiveFrame_answer (hq : q.Correct) {rawScratchCap : ℕ} {type : MessageType} {t : Octets}
    (hid : b.requestId = requestId) (hservice : b.service = service)
    (hcontrol : limits.controlPayloadMax ≤ b.storage.decodedCap)
    (hdec : frameDecode t limits rawScratchCap = .ok (answerFrame service requestId type, payload)) :
    Answer limits rawScratchCap service requestId t
        (receiveFrame q (answerFrame service requestId type) payload b).1 ∧
      ∀ r, (receiveFrame q (answerFrame service requestId type) payload b).1 = .ok r →
        r.payload <+: (receiveFrame q (answerFrame service requestId type) payload b).2.decoded := by
  obtain ⟨-, -, -, hadm⟩ := frameDecode_eq_ok.mp hdec
  have htype : ∀ type', answerFrame service requestId type = answerFrame service requestId type' ↔
      type = type' := by simp [answerFrame]
  rw [receiveFrame, if_neg (by simp [answerFrame, hid])]
  by_cases herr : type = messageError
  · subst herr
    rw [if_pos (by rfl), hservice]
    have hcap := Nat.le_trans (hadm.control_length_le (.inr rfl)) hcontrol
    obtain ⟨hreport, hgarbled⟩ := decodeRemoteError_eq q service hq hcap
    refine ⟨.of_decoded hdec ?_ ?_ ?_ ?_, by simp⟩
    · intro r
      exact ⟨fun h => absurd h (by simp), fun h => absurd ((htype _).mp h.1) (by decide)⟩
    · exact fun _ code h => congrArg _ (hreport code h)
    · exact fun _ h => (hgarbled h).imp (congrArg _) (Or.imp (congrArg _) (congrArg _))
    · simpa using decodeRemoteError_ne_ok q _ _ _
  rw [if_neg (by simpa [answerFrame] using herr)]
  by_cases hresp : type = messageResponse
  · subst hresp
    have hcap := Nat.le_trans (hadm.control_length_le (.inl rfl)) hcontrol
    rw [if_neg (by simp [answerFrame]), if_neg (by omega)]
    refine ⟨.of_decoded hdec ?_ ?_ ?_ (by simp), ?_⟩
    · simp [eq_comm]
    · exact fun h => absurd ((htype _).mp h) herr
    · exact fun h => absurd ((htype _).mp h) herr
    · rintro r hr
      obtain rfl := Except.ok.inj hr
      exact List.prefix_append _ _
  · rw [if_pos (by simpa [answerFrame] using hresp)]
    refine ⟨.of_decoded hdec ?_ ?_ ?_ (by simp), by simp⟩
    · simp [htype, hresp]
    · exact fun h => absurd ((htype _).mp h) herr
    · exact fun h => absurd ((htype _).mp h) herr

/-- **What a complete record makes of the request.** -/
theorem receiveRecord_answer (hq : q.Correct) (h : Waiting limits service requestId b) (t : Octets) :
    Answer limits b.storage.rawScratchCap service requestId t (receiveRecord q t b).1 ∧
      ∀ r, (receiveRecord q t b).1 = .ok r → r.payload <+: (receiveRecord q t b).2.decoded := by
  obtain ⟨rfl, rfl, rfl, hstream, hvalid, hcontrol, -, -⟩ := h
  rw [receiveRecord, hstream]
  rcases hdec : frameDecode t b.limits b.storage.rawScratchCap with status | ⟨frame, payload⟩
  · refine ⟨⟨by simp [hdec], by simp [hdec], by simp [hdec], ?_⟩, by simp⟩
    simp only [ne_eq, Except.error.injEq]
    rintro rfl
    exact frameDecode_ne_error_ok hdec
  · obtain ⟨-, -, -, hadm⟩ := frameDecode_eq_ok.mp hdec
    by_cases hexp : Expected (freshStream b.limits b.service b.requestId) frame payload
    · simp only [streamAccept_of_expected hexp]
      rw [eq_answerFrame_of_expected hexp] at hdec ⊢
      exact receiveFrame_answer q hq rfl rfl hcontrol hdec
    · obtain ⟨status, hne, hacc⟩ := streamAccept_of_not_expected rfl rfl (Nat.zero_le _) hexp
      have hother : ∀ type, type = messageResponse ∨ type = messageError →
          frame ≠ answerFrame b.service b.requestId type := by
        rintro type ht rfl
        exact hexp (expected_answer hvalid hadm ht)
      simp only [hacc]
      cases status
      case ok => exact absurd rfl hne
      all_goals
        exact ⟨.of_decoded hdec (by simp [hother _ (.inl rfl)])
          (fun h => absurd h (hother _ (.inr rfl))) (fun h => absurd h (hother _ (.inr rfl)))
          (by simp), by simp⟩

end Record

/-! ### Waiting for the answer -/

/-- The broker has seen a part of the first record; `pending` is that part and everything that
is still to come. -/
structure Awaiting (s : Setting) (limits : FrameLimits) (service : ServiceId) (requestId : RequestId)
    (b : Broker) (w : Exchange) (pending : Octets) : Prop where
  waiting : Waiting limits service requestId b
  inBuffer : b.receiveLength ≤ b.receiveData.length
  fits : w.Fits b.storage.receiveCap
  inTime : ∀ n, s.clock n < b.deadlineMs
  held : ∃ held, 0#8 ∉ held ∧ Holding b.storage.encoded b.reader held ∧
    held ++ (b.unread ++ w.bytes) = pending

/-- Turns the wait may need before it comes to the end of the stream. -/
def waitTurns (b : Broker) (w : Exchange) : ℕ :=
  2 * w.arrivals.length + if b.receiveLength ≤ b.receiveOffset then 0 else 1

/-- How the wait ends: with the first record, or with the end of the stream. -/
def Ended (s : Setting) (limits : FrameLimits) (rawScratchCap : ℕ) (service : ServiceId)
    (requestId : RequestId) (pending : Octets) (result : Except Status Response) : Prop :=
  match (records pending).head? with
  | some t => Answer limits rawScratchCap service requestId t result
  | none => result = .error s.endStatus

section Wait

variable {δ : Type} (q : Qcbor δ) {s : Setting} {limits : FrameLimits} {service : ServiceId}
  {requestId : RequestId} {b : Broker} {w : Exchange} {pending : Octets}

theorem remainingTimeout_exchange (b : Broker) (w : Exchange) (hd : b.deadlineActive = true)
    (ht : ∀ n, s.clock n < b.deadlineMs) : ∃ remainingMs,
      remainingTimeout (exchangeOps s).toBrokerOps b w
        = (.ok remainingMs, { w with ticks := w.ticks + 1 }) := by
  have hlt : ¬ b.deadlineMs ≤ s.clock w.ticks := by simpa using ht w.ticks
  simp only [remainingTimeout, hd, exchangeOps, if_neg hlt]
  exact ⟨_, rfl⟩

variable {b' : Broker} {fuel : ℕ}

/-- The receive buffer and the reader are no part of what the broker waits for. -/
theorem Waiting.updated (h : Waiting limits service requestId b) (hlimits : b'.limits = b.limits)
    (hservice : b'.service = b.service) (hid : b'.requestId = b.requestId)
    (hstream : b'.stream = b.stream) (hdecoded : b'.storage.decodedCap = b.storage.decodedCap)
    (hencoded : b'.storage.encoded.length = b.storage.encoded.length)
    (hdeadline : b'.deadlineActive = b.deadlineActive) : Waiting limits service requestId b' :=
  ⟨hlimits.trans h.limitsEq, hservice.trans h.serviceEq, hid.trans h.requestIdEq,
    hstream.trans h.stream, h.limitsValid, by rw [hdecoded]; exact h.controlFits,
    by rw [hencoded]; exact h.recordFits, hdeadline.trans h.deadlineActive⟩

variable (h : Awaiting s limits service requestId b w pending)

include h

/-- A turn that asks the transport. -/
theorem receiveAsk_exchange (he : b.receiveLength ≤ b.receiveOffset) :
    (∃ b' w', receiveAsk (exchangeOps s).toBrokerOps b w = (none, b', w') ∧
      Awaiting s limits service requestId b' w' pending ∧ w'.sent = w.sent ∧
      b'.storage.rawScratchCap = b.storage.rawScratchCap ∧
      (w.arrivals = [] → s.ending = .errWouldBlock) ∧ (w.arrivals ≠ [] → waitTurns b' w' < waitTurns b w)) ∨
    ∃ b' w', receiveAsk (exchangeOps s).toBrokerOps b w = (some (.error s.endStatus), b', w') ∧
      w'.sent = w.sent ∧ 0#8 ∉ pending := by
  obtain ⟨remainingMs, hrt⟩ := remainingTimeout_exchange b.drained w h.waiting.deadlineActive h.inTime
  obtain ⟨held, hz, hheld, hpending⟩ := h.held
  rw [Broker.unread_of_drained he, List.nil_append] at hpending
  have hdrained : Waiting limits service requestId b.drained := h.waiting.updated rfl rfl rfl rfl rfl rfl rfl
  rw [receiveAsk, hrt]
  rcases hw : w.arrivals with _ | ⟨_ | chunk, arrivals⟩
  · -- the end of the stream
    have hnone : 0#8 ∉ pending := by
      rw [← hpending, Exchange.bytes, hw]
      simpa using hz
    by_cases hblock : s.ending = .errWouldBlock
    · left
      refine ⟨b.drained, { w with ticks := w.ticks + 1 }, ?_, ?_, rfl, rfl, fun _ => hblock, ?_⟩
      · simp [exchangeOps, hw, receiveAwait, hblock]
      · exact ⟨hdrained, Nat.zero_le _, h.fits, h.inTime, held, hz, hheld, hpending⟩
      · intro hne
        exact absurd rfl hne
    · right
      refine ⟨b.drained, { w with ticks := w.ticks + 1 }, ?_, rfl, hnone⟩
      by_cases hok : s.ending = .ok <;>
        simp [exchangeOps, hw, receiveAwait, hblock, Setting.endStatus, hok]
  · -- nothing yet
    left
    refine ⟨b.drained, { w with ticks := w.ticks + 1, arrivals }, ?_, ?_, rfl, rfl, by simp, ?_⟩
    · simp [exchangeOps, receiveAwait]
    · refine ⟨hdrained, Nat.zero_le _, ?_, h.inTime, held, hz, hheld, ?_⟩
      · intro chunk hmem
        exact h.fits chunk (by rw [hw]; exact List.mem_cons_of_mem _ hmem)
      · rw [← hpending]
        simp [Exchange.bytes, hw, Broker.unread, Broker.drained]
    · intro _
      simp [waitTurns, hw, Broker.drained]
      omega
  · -- octets
    left
    obtain ⟨hne, hfit⟩ := h.fits chunk (by rw [hw]; exact List.mem_cons_self)
    have hpos : chunk.length ≠ 0 := fun h0 => hne (List.length_eq_zero_iff.mp h0)
    refine ⟨{ b.drained with receiveData := chunk, receiveLength := chunk.length },
      { w with ticks := w.ticks + 1, arrivals }, ?_, ?_, rfl, rfl, by simp, ?_⟩
    · simp [exchangeOps, receiveAwait, hne, Nat.not_lt.mpr hfit, Broker.drained]
    · refine ⟨hdrained.updated rfl rfl rfl rfl rfl rfl rfl, Nat.le_refl _, ?_, h.inTime,
        held, hz, hheld, ?_⟩
      · intro c hmem
        exact h.fits c (by rw [hw]; exact List.mem_cons_of_mem _ hmem)
      · rw [← hpending]
        simp [Exchange.bytes, hw, Broker.unread, Broker.drained]
    · intro _
      simp [waitTurns, hw, Broker.drained, hpos]
      omega

omit h in
/-- A record the reader hands out or refuses is answered. -/
theorem answer_of_refused (rawScratchCap : ℕ) (h : Waiting limits service requestId b) {t : Octets}
    {status : Status} (hv : recordVerdict b.storage.encoded.length t = .error status) :
    Answer limits rawScratchCap service requestId t (.error status) := by
  have hstatus : status ≠ .ok := by
    rcases recordVerdict_eq_error hv with rfl | rfl <;> decide
  -- neither nothing nor an overlong record is a frame
  have hdec : ∀ r, frameDecode t limits rawScratchCap ≠ .ok r := by
    rintro ⟨frame, payload⟩ hdec
    obtain ⟨-, hlen, hcobs, -⟩ := frameDecode_eq_ok.mp hdec
    have hraw := length_le_of_cobsDecode hcobs
    rw [rawRecord_length] at hraw
    have hfits := h.recordFits
    rw [recordVerdict] at hv
    split_ifs at hv with hnil hlong
    · subst hnil
      simp at hraw
    · omega
  exact ⟨fun r => ⟨fun h => absurd h (by simp), fun h => absurd h.1 (hdec _)⟩,
    fun _ _ h => absurd h (hdec _), fun _ h => absurd h (hdec _), by simpa using hstatus⟩

/-- A turn on the octets at hand. -/
theorem receiveTurn_exchange (hq : q.Correct) (he : ¬ b.receiveLength ≤ b.receiveOffset) :
    (∃ b', receiveTurn q b = (none, b') ∧ Awaiting s limits service requestId b' w pending ∧
      b'.storage.rawScratchCap = b.storage.rawScratchCap ∧ waitTurns b' w < waitTurns b w) ∨
    ∃ result b', receiveTurn q b = (some result, b') ∧
      Ended s limits b.storage.rawScratchCap service requestId pending result ∧
      ∀ r, result = .ok r → r.payload <+: b'.decoded := by
  obtain ⟨held, hz, hheld, hpending⟩ := h.held
  by_cases hu : 0#8 ∈ b.unread
  · -- the delimiter is at hand
    right
    obtain ⟨t, rest, hsplit, ht⟩ := List.eq_append_cons_of_mem hu
    obtain ⟨reader, storage, hinit, hlen, hpush⟩ := recordReaderPush_close hheld ht rest
    have hfirst : (records pending).head? = some (held ++ t) := by
      rw [← hpending, hsplit, show held ++ (t ++ 0#8 :: rest ++ w.bytes)
        = (held ++ t) ++ 0#8 :: (rest ++ w.bytes) by simp, records_close (by simp [hz, ht])]
      rfl
    have htook : Waiting limits service requestId (b.took reader storage (t.length + 1)) :=
      h.waiting.updated rfl rfl rfl rfl rfl hlen rfl
    simp only [Ended, hfirst]
    rw [receiveTurn, hsplit, hpush]
    rcases hv : recordVerdict b.storage.encoded.length (held ++ t) with status | record
    · have hanswer := answer_of_refused b.storage.rawScratchCap h.waiting hv
      rcases recordVerdict_eq_error hv with rfl | rfl
      · exact ⟨_, _, rfl, hanswer, by simp⟩
      · exact ⟨_, _, rfl, hanswer, by simp⟩
    · obtain ⟨rfl, -, -⟩ := recordVerdict_eq_ok.mp hv
      obtain ⟨hanswer, hdecoded⟩ := receiveRecord_answer q hq htook (held ++ t)
      exact ⟨_, _, rfl, hanswer, hdecoded⟩
  · -- the octets at hand are taken whole
    left
    obtain ⟨reader, storage, hpush, hlen, hhold⟩ := recordReaderPush_open hheld hu
    have hunread : b.unread.length = b.receiveLength - b.receiveOffset := by
      rw [Broker.unread, List.length_drop, List.length_take, Nat.min_eq_left h.inBuffer]
    refine ⟨b.took reader storage b.unread.length, by rw [receiveTurn, hpush]; rfl,
      ⟨h.waiting.updated rfl rfl rfl rfl rfl hlen rfl, h.inBuffer, h.fits, h.inTime,
        held ++ b.unread, by simp [hz, hu], hhold, ?_⟩, rfl, ?_⟩
    · rw [Broker.unread_took, List.drop_length, ← hpending]
      simp
    · simp only [waitTurns, Broker.took, hunread]
      rw [if_pos (by omega), if_neg he]
      omega

/-- **One turn of the wait**: it goes on, or ends with what the first record or the end of the
stream makes of the request. -/
theorem receiveStep_exchange (hq : q.Correct) :
    (∃ b' w', receiveStep (exchangeOps s).toBrokerOps q b w = (none, b', w') ∧
      Awaiting s limits service requestId b' w' pending ∧ w'.sent = w.sent ∧
      b'.storage.rawScratchCap = b.storage.rawScratchCap ∧
      (waitTurns b w = 0 → s.ending = .errWouldBlock) ∧
      (waitTurns b w ≠ 0 → waitTurns b' w' < waitTurns b w)) ∨
    ∃ result b' w', receiveStep (exchangeOps s).toBrokerOps q b w = (some result, b', w') ∧
      w'.sent = w.sent ∧ Ended s limits b.storage.rawScratchCap service requestId pending result ∧
      ∀ r, result = .ok r → r.payload <+: b'.decoded := by
  by_cases he : b.receiveLength ≤ b.receiveOffset
  · rw [receiveStep, if_pos he]
    rcases receiveAsk_exchange h he with ⟨b', w', hask, hwait, hsent, hcap, hend, hturns⟩ |
      ⟨b', w', hask, hsent, hnone⟩
    · have hnil : waitTurns b w = 0 ↔ w.arrivals = [] := by
        rw [waitTurns, if_pos he, ← List.length_eq_zero_iff]
        omega
      exact .inl ⟨b', w', hask, hwait, hsent, hcap, fun h0 => hend (hnil.mp h0),
        fun h0 => hturns fun hw => h0 (hnil.mpr hw)⟩
    · refine .inr ⟨_, b', w', hask, hsent, ?_, by simp⟩
      rw [Ended, records_open hnone]
      rfl
  · rw [receiveStep, if_neg he]
    have hpos : waitTurns b w ≠ 0 := by simp [waitTurns, he]
    rcases receiveTurn_exchange q h hq he with ⟨b', hturn, hwait, hcap, hturns⟩ |
      ⟨result, b', hturn, hended, hdecoded⟩
    · exact .inl ⟨b', w, by rw [hturn], hwait, rfl, hcap, fun h0 => absurd h0 hpos, fun _ => hturns⟩
    · exact .inr ⟨result, b', w, by rw [hturn], rfl, hended, hdecoded⟩

/-- **A wait that ends.** -/
theorem receiveLoop_exchange (hq : q.Correct) {result : Except Status Response} {w' : Exchange}
    (hrun : receiveLoop (exchangeOps s).toBrokerOps q fuel b w = some (result, b', w')) :
    w'.sent = w.sent ∧ Ended s limits b.storage.rawScratchCap service requestId pending result ∧
      ∀ r, result = .ok r → r.payload <+: b'.decoded := by
  induction fuel generalizing b w with
  | zero => exact absurd hrun (by simp [receiveLoop])
  | succ fuel ih =>
    rw [receiveLoop] at hrun
    rcases receiveStep_exchange q h hq with ⟨b₁, w₁, hstep, hwait, hsent, hcap, -, -⟩ |
      ⟨result₁, b₁, w₁, hstep, hout⟩
    · rw [hstep] at hrun
      obtain ⟨hsent', hended, hdecoded⟩ := ih hwait hrun
      exact ⟨hsent'.trans hsent, by rwa [hcap] at hended, hdecoded⟩
    · rw [hstep] at hrun
      cases hrun
      exact hout

/-- **A wait ends** if there is a record among what arrives, or an end to it. -/
theorem receiveLoop_exchange_returns (hq : q.Correct)
    (hend : records pending ≠ [] ∨ s.ending ≠ .errWouldBlock) (hfuel : waitTurns b w < fuel) :
    receiveLoop (exchangeOps s).toBrokerOps q fuel b w ≠ none := by
  induction fuel generalizing b w with
  | zero => omega
  | succ fuel ih =>
    rw [receiveLoop]
    rcases receiveStep_exchange q h hq with ⟨b₁, w₁, hstep, hwait, -, -, hblock, hturns⟩ |
      ⟨result₁, b₁, w₁, hstep, -⟩
    · rw [hstep]
      refine ih hwait (Nat.lt_of_lt_of_le (hturns ?_) (by omega))
      -- with no turn left there is nothing at hand and nothing to come
      intro hzero
      obtain ⟨held, hz, -, hpending⟩ := h.held
      have hempty : w.arrivals = [] ∧ b.receiveLength ≤ b.receiveOffset := by
        unfold waitTurns at hzero
        split at hzero
        · exact ⟨List.length_eq_zero_iff.mp (by omega), by assumption⟩
        · omega
      rw [Broker.unread_of_drained hempty.2, Exchange.bytes, hempty.1] at hpending
      simp only [List.flatMap_nil, List.append_nil] at hpending
      rcases hend with hrec | hend
      · exact hrec (hpending ▸ records_open hz)
      · exact hend (hblock hzero)
    · rw [hstep]
      simp

/-! ### The end of the call -/

omit h in
theorem sendFrame_sent (frame : Frame) (payload : Octets) (remainingMs : BitVec 32) (b : Broker)
    (w : Exchange) : ∃ more,
      (sendFrame (exchangeOps s).toBrokerOps frame payload remainingMs b w).2.2.sent = w.sent ++ more := by
  rcases hrun : sendFrame (exchangeOps s).toBrokerOps frame payload remainingMs b w with ⟨status, b', w'⟩
  obtain ⟨-, -, -, -, ⟨-, -, rfl⟩ | ⟨-, hsend⟩⟩ := sendFrame_cases hrun
  · exact ⟨[], by simp⟩
  · cases hsend
    by_cases hs : s.sending = .ok
    · exact ⟨[_], by rw [if_pos hs]⟩
    · exact ⟨[], by simp [hs]⟩

omit h in
theorem finishSession_exchange (preserveDecoded : Bool) (b : Broker) (w : Exchange) :
    (finishSession (exchangeOps s).toBrokerOps preserveDecoded b w).1 = .ok ∧
      (finishSession (exchangeOps s).toBrokerOps preserveDecoded b w).2.2 = w ∧
      (preserveDecoded = true →
        (finishSession (exchangeOps s).toBrokerOps preserveDecoded b w).2.1.decoded = b.decoded) := by
  have hclose : (if b.opened then (exchangeOps s).closeTransport w else (.ok, w)) = (.ok, w) := by
    cases b.opened <;> rfl
  rw [finishSession, hclose]
  refine ⟨rfl, rfl, fun h => ?_⟩
  simp [wipeRequestStorage, h]

omit h in
theorem brokerCancel_sent (b : Broker) (w : Exchange) : ∃ more,
    (brokerCancel (exchangeOps s) b w).2.2.sent = w.sent ++ more := by
  rw [brokerCancel]
  split_ifs
  · exact ⟨[], by simp⟩
  · obtain ⟨more, hsent⟩ := sendFrame_sent (s := s)
      ⟨b.service, messageCancel, 0#8, b.requestId, 1#32⟩ [] brokerCancelTimeoutMs b w
    refine ⟨more, ?_⟩
    simp only [(finishSession_exchange _ _ _).2.1]
    exact hsent

/-- **The end of the session changes nothing about the answer.** -/
theorem requestAnswer_exchange (hq : q.Correct) {result : Except Status Response} {w' : Exchange}
    (hopen : b.initialized = true ∧ b.active = true ∧ b.bulkMode = false)
    (hrun : requestAnswer (exchangeOps s) q fuel b w = some (result, b', w')) :
    Ended s limits b.storage.rawScratchCap service requestId pending result ∧
      ∃ more, w'.sent = w.sent ++ more := by
  rw [requestAnswer, brokerReceive, if_neg (by simp [hopen])] at hrun
  split at hrun
  · simp at hrun
  · rename_i b₁ w₁ hloop
    obtain ⟨hsent, hended, -⟩ := receiveLoop_exchange q h hq hloop
    obtain ⟨more, hmore⟩ := brokerCancel_sent (s := s) b₁ w₁
    cases hrun
    exact ⟨hended, more, by rw [← hsent]; exact hmore⟩
  · rename_i status b₁ w₁ _ hloop
    obtain ⟨hsent, hended, -⟩ := receiveLoop_exchange q h hq hloop
    simp only [Option.some.injEq, Prod.mk.injEq, (finishSession_exchange _ _ _).2.1] at hrun
    obtain ⟨rfl, rfl, rfl⟩ := hrun
    exact ⟨hended, [], by simpa using hsent⟩
  · rename_i response b₁ w₁ hloop
    obtain ⟨hsent, hended, hdecoded⟩ := receiveLoop_exchange q h hq hloop
    obtain ⟨hclose, hworld, hkept⟩ := finishSession_exchange (s := s) true b₁ w₁
    simp only [Option.some.injEq, requestSettle] at hrun
    split at hrun
    · rename_i b₂ w₂ hfinish
      rw [hfinish] at hworld hkept
      simp only [Prod.mk.injEq] at hrun hworld hkept
      obtain ⟨rfl, rfl, rfl⟩ := hrun
      have hsame : b₂.decoded.take response.payload.length = response.payload := by
        rw [hkept trivial]
        exact (List.prefix_iff_eq_take.mp (hdecoded response rfl)).symm
      rw [hsame, hworld]
      exact ⟨hended, [], by simpa using hsent⟩
    · rename_i hne hfinish
      rw [hfinish] at hclose
      exact absurd hclose hne

theorem requestAnswer_exchange_returns (hq : q.Correct)
    (hopen : b.initialized = true ∧ b.active = true ∧ b.bulkMode = false)
    (hend : records pending ≠ [] ∨ s.ending ≠ .errWouldBlock) (hfuel : waitTurns b w < fuel) :
    requestAnswer (exchangeOps s) q fuel b w ≠ none := by
  have hloop := receiveLoop_exchange_returns q h hq hend hfuel
  rw [requestAnswer, brokerReceive, if_neg (by simp [hopen])]
  split
  · rename_i hnone
    exact absurd hnone hloop
  · simp
  · simp
  · simp

end Wait

/-! ### Sending the request -/

/-- The deadline of a call that starts at `now`. -/
def deadlineOf (now : BitVec 64) (timeoutMs : BitVec 32) : BitVec 64 :=
  if uint64Max - now.toNat < timeoutMs.toNat then BitVec.allOnes 64 else now + timeoutMs.setWidth 64

def requestFrame (service : ServiceId) (requestId : RequestId) : Frame :=
  ⟨service, messageRequest, 0#8, requestId, 0#32⟩

/-- A broker with no session and nothing received. -/
structure Broker.Quiet (b : Broker) : Prop where
  initialized : b.initialized = true
  notBulk : b.bulkMode = false
  offset : b.receiveOffset = 0
  length : b.receiveLength = 0
  reader : b.reader.initialized = true

section Begin

variable {s : Setting} {service : ServiceId} {requestId : RequestId} {requestBody : Octets}
  {timeoutMs : BitVec 32} {b : Broker} {w : Exchange}
variable {status : Status} {b' : Broker} {w' : Exchange}

theorem emitFrame_exchange {frame : Frame} {payload : Octets}
    (h : emitFrame (exchangeOps s).toBrokerOps frame payload b w = (status, b', w'))
    (hd : b.deadlineActive = true) (ht : ∀ n, s.clock n < b.deadlineMs) :
    w'.arrivals = w.arrivals ∧ (status ≠ .ok → w'.sent = w.sent) ∧ (status = .ok →
      w'.sent = w.sent ++ [stuffed frame payload ++ [0#8]] ∧
      ∃ encoded rawScratch, encoded.length = b.storage.encoded.length ∧
        b' = { b with storage.encoded := encoded, rawScratch }) := by
  obtain ⟨remainingMs, hrt⟩ := remainingTimeout_exchange b w hd ht
  obtain ⟨encoded, rawScratch, hlen, rfl, hsent⟩ := emitFrame_cases h
  rw [hrt] at hsent
  rcases hsent with ⟨hne, rfl | hlate⟩ | ⟨-, remainingMs, w₁, heq, hsend⟩
  · exact ⟨rfl, fun _ => rfl, fun hok => absurd hok hne⟩
  · cases hlate
  · cases heq
    cases hsend
    by_cases hs : s.sending = .ok
    · rw [if_pos hs]
      exact ⟨rfl, fun hne => absurd hs hne, fun _ => ⟨rfl, _, _, hlen, rfl⟩⟩
    · rw [if_neg hs]
      exact ⟨rfl, fun _ => rfl, fun hok => absurd hok hs⟩

/-- What the start of a request leaves: nothing sent, or a broker that waits for the answer. -/
def Asked (s : Setting) (service : ServiceId) (requestId : RequestId) (requestBody : Octets) (b : Broker)
    (w : Exchange) (r : Status × Broker × Exchange) : Prop :=
  (r.1 ≠ .ok ∧ r.2.2.sent = w.sent) ∨
  (r.1 = .ok ∧
    r.2.2.sent = w.sent ++ [stuffed (requestFrame service requestId) requestBody ++ [0#8]] ∧
    r.2.1.storage.rawScratchCap = b.storage.rawScratchCap ∧
    (r.2.1.initialized = true ∧ r.2.1.active = true ∧ r.2.1.bulkMode = false) ∧
    Awaiting s (effectiveLimits b.storage s.limits) service requestId r.2.1 r.2.2 w.bytes ∧
    waitTurns r.2.1 r.2.2 = 2 * w.arrivals.length)

theorem requestOpen_exchange
    (h : requestOpen (exchangeOps s) service requestBody b w = (status, b', w')) (hb : b.Quiet)
    (hs : serviceIsValid service = true) (hfits : w.Fits b.storage.receiveCap)
    (hd : b.deadlineActive = true) (ht : ∀ n, s.clock n < b.deadlineMs) (hid : b.requestId = requestId) :
    Asked s service requestId requestBody b w (status, b', w') := by
  have habandon : ∀ {status₁ : Status} {b₁ : Broker} {w₁ : Exchange}, status₁ ≠ .ok → w₁.sent = w.sent →
      abandonSession (exchangeOps s).toBrokerOps status₁ b₁ w₁ = (status, b', w') →
      Asked s service requestId requestBody b w (status, b', w') := by
    intro status₁ b₁ w₁ hne hsent heq
    obtain ⟨rfl, hfinish⟩ := Prod.mk.inj heq
    have hworld := (finishSession_exchange (s := s) false b₁ w₁).2.1
    rw [hfinish] at hworld
    exact .inl ⟨hne, (congrArg Exchange.sent hworld).trans hsent⟩
  rw [requestOpen] at h
  split at h <;> rename_i hlimits <;>
    obtain ⟨rfl, ⟨hne, -⟩ | ⟨hok, -, hvalid, rfl⟩⟩ := queryEffectiveLimits_cases hlimits
  · exact absurd rfl hne
  · split at h
    · exact habandon (by decide) rfl h
    simp only at h
    split at h <;> rename_i w₂ hemit <;> obtain ⟨harrivals, hunsent, hout⟩ := emitFrame_exchange hemit hd ht
    · obtain ⟨hsent, encoded, rawScratch, hlen, rfl⟩ := hout rfl
      rw [if_neg (by simp [streamInit_of_valid hs])] at h
      cases h
      refine .inr ⟨rfl, by rw [hsent, requestFrame, hid], rfl, ⟨hb.initialized, rfl, hb.notBulk⟩, ?_, ?_⟩
      · have hfits' : w'.Fits b.storage.receiveCap := by
          intro chunk hmem
          exact hfits chunk (by rwa [harrivals] at hmem)
        refine ⟨⟨rfl, rfl, hid, ?_, hvalid, ?_, ?_, hd⟩, ?_, hfits', ht, [], by simp,
          holding_reset hb.reader _, ?_⟩
        · simp only [streamInit_of_valid hs, freshStream, hid, exchangeOps]
        · simp only [effectiveLimits]
          omega
        · simp only [effectiveLimits, hlen]
          omega
        · simp only [hb.length]
          exact Nat.zero_le _
        · simp [Broker.unread, hb.length, Exchange.bytes, harrivals]
      · simp [waitTurns, hb.offset, hb.length, harrivals]
    · exact habandon ‹_› (hunsent ‹_›) h
  · exact habandon hne rfl h
  · exact absurd hok ‹_›

/-- The same from the start of the call. -/
theorem requestBegin_exchange
    (h : requestBegin (exchangeOps s) service requestId requestBody timeoutMs b w = (status, b', w'))
    (hb : b.Quiet) (hs : serviceIsValid service = true) (hfits : w.Fits b.storage.receiveCap)
    (ht : ∀ n, s.clock n < deadlineOf (s.clock w.ticks) timeoutMs) :
    Asked s service requestId requestBody b w (status, b', w') := by
  have hdeadline : beginDeadline (exchangeOps s).toBrokerOps timeoutMs { b with requestId } w
      = (.ok, { b with
          requestId, deadlineMs := deadlineOf (s.clock w.ticks) timeoutMs, deadlineActive := true },
        { w with ticks := w.ticks + 1 }) := rfl
  rw [requestBegin, hdeadline] at h
  simp only at h
  split at h <;> rename_i hopen <;> obtain ⟨-, rfl⟩ := Prod.mk.inj hopen
  · have hasked := requestOpen_exchange h { hb with } hs hfits rfl ht rfl
    exact hasked
  · cases h
    exact .inl ⟨‹_›, rfl⟩

end Begin

/-! ### The whole call -/

section Call

variable {δ : Type} (q : Qcbor δ) {s : Setting} {service : ServiceId} {supplied : Option RequestId}
  {requestBody : Octets} {timeoutMs : BitVec 32} {b₀ b : Broker} {w : Exchange}

/-- The broker a request starts with. -/
def Broker.emptied (b : Broker) : Broker :=
  { wipeRequestStorage false b with
    reader := recordReaderReset b.reader, requestId := requestIdZero }

theorem effectiveLimits_emptied (b : Broker) (limits : FrameLimits) :
    effectiveLimits b.emptied.storage limits = effectiveLimits b.storage limits := by
  simp [effectiveLimits, Broker.emptied, wipeRequestStorage]

variable {log : List TransportCall}

theorem Ready.quiet (hb₀ : b₀.Fresh) (h : Ready b₀ b log) :
    b.emptied.Quiet := by
  obtain ⟨limits, deadlineMs, decoded, requestId, heq⟩ :=
    Ready.prepared (w := ((), log)) hb₀ h requestIdZero
  obtain ⟨storage, receiveData, rawScratch, decoded, rfl⟩ := hb₀
  rw [Broker.emptied, heq]
  exact ⟨rfl, rfl, rfl, rfl, rfl⟩

/-- A request that is not refused out of hand. -/
theorem brokerRequest_cases {σ : Type} (ops : SessionOps σ) (fuel : ℕ) (service : ServiceId)
    (supplied : Option RequestId) (requestBody : Octets) (timeoutMs : BitVec 32) (b : Broker) (w : σ) :
    (∃ status, status ≠ .ok ∧
      brokerRequest ops q fuel service supplied requestBody timeoutMs b w = some (.error status, b, w)) ∨
    (b.initialized = true ∧ b.opened = false ∧ serviceIsValid service = true ∧
      brokerRequest ops q fuel service supplied requestBody timeoutMs b w =
        match requestNumber ops supplied w with
        | (.error status, w) => some (.error status, b.emptied, w)
        | (.ok requestId, w) =>
          match requestBegin ops service requestId requestBody timeoutMs b.emptied w with
          | (.ok, b, w) => requestAnswer ops q fuel b w
          | (status, b, w) => some (.error status, b, w)) := by
  rw [brokerRequest]
  split_ifs with harg hinit hservice hbusy
  · exact .inl ⟨_, by decide, rfl⟩
  · exact .inl ⟨_, by decide, rfl⟩
  · exact .inl ⟨_, by decide, rfl⟩
  · exact .inl ⟨_, by decide, rfl⟩
  · exact .inr ⟨by simpa using hinit, by simp_all, by simpa using hservice, rfl⟩

theorem requestNumber_exchange (supplied : Option RequestId) (w : Exchange) :
    (requestNumber (exchangeOps s) supplied w).2 = w ∧
      (requestNumber (exchangeOps s) supplied w).1 ≠ .error .ok ∧
      ∀ requestId, (requestNumber (exchangeOps s) supplied w).1 = .ok requestId →
        requestId = supplied.getD s.drawn := by
  cases supplied with
  | some requestId => exact ⟨rfl, by simp [requestNumber], fun _ h => (Except.ok.inj h).symm⟩
  | none =>
    simp only [requestNumber]
    split
    · rename_i requestId w₁ heq
      obtain ⟨-, rfl, rfl⟩ : s.drawing = .ok ∧ s.drawn = requestId ∧ w = w₁ := by
        simpa [exchangeOps] using heq
      refine ⟨rfl, ?_, ?_⟩
      · split_ifs <;> simp
      · intro requestId h
        split_ifs at h
        exact (Except.ok.inj h).symm
    · rename_i status _ w₁ hne heq
      obtain ⟨-, -, rfl⟩ : s.drawing = status ∧ _ ∧ w = w₁ := by simpa [exchangeOps] using heq
      exact ⟨rfl, by simpa using hne, by simp⟩

variable (fuel : ℕ) (hb₀ : b₀.Fresh)
  (hready : b.initialized = true → b.opened = false → Ready b₀ b log)
  (hfits : w.Fits b.storage.receiveCap) (ht : ∀ n, s.clock n < deadlineOf (s.clock w.ticks) timeoutMs)

include hb₀ hready hfits ht

/-- A request fails before anything is sent, or comes to the wait for the answer. -/
theorem brokerRequest_asks :
    (∃ status b' w', status ≠ .ok ∧ w'.sent = w.sent ∧
      brokerRequest (exchangeOps s) q fuel service supplied requestBody timeoutMs b w
        = some (.error status, b', w')) ∨
    ∃ b' w', brokerRequest (exchangeOps s) q fuel service supplied requestBody timeoutMs b w
        = requestAnswer (exchangeOps s) q fuel b' w' ∧
      Asked s service (supplied.getD s.drawn) requestBody b.emptied w (.ok, b', w') := by
  rcases brokerRequest_cases q (exchangeOps s) fuel service supplied requestBody timeoutMs b w with
    ⟨status, hne, hrefused⟩ | ⟨hinit, hopened, hservice, heq⟩
  · exact .inl ⟨status, b, w, hne, rfl, hrefused⟩
  obtain ⟨hworld, hdrawn, hnumber⟩ := requestNumber_exchange (s := s) supplied w
  rw [heq]
  split <;> rename_i hnum <;> rw [hnum] at hworld hdrawn hnumber
  · exact .inl ⟨_, _, _, by simpa using hdrawn, congrArg Exchange.sent hworld, rfl⟩
  · obtain rfl : _ = w := hworld
    obtain rfl := hnumber _ rfl
    split <;> rename_i hbegin <;>
      have hasked := requestBegin_exchange hbegin ((hready hinit hopened).quiet hb₀) hservice hfits ht
    · exact .inr ⟨_, _, rfl, hasked⟩
    · rcases hasked with ⟨hne, hsent⟩ | ⟨hok, -⟩
      · exact .inl ⟨_, _, _, hne, hsent, rfl⟩
      · exact absurd hok ‹_›

/-- **A request that returns**: nothing was sent and the call failed, or the request was sent and
the first record of the peer's stream, or its end, decides. -/
theorem brokerRequest_exchange (hq : q.Correct) {result : Except Status Response} {b' : Broker}
    {w' : Exchange}
    (hrun : brokerRequest (exchangeOps s) q fuel service supplied requestBody timeoutMs b w
      = some (result, b', w')) :
    (∃ status, status ≠ .ok ∧ result = .error status ∧ w'.sent = w.sent) ∨
    ∃ more, w'.sent = w.sent ++
        (stuffed (requestFrame service (supplied.getD s.drawn)) requestBody ++ [0#8]) :: more ∧
      Ended s (effectiveLimits b.storage s.limits) b.storage.rawScratchCap service
        (supplied.getD s.drawn) w.bytes result := by
  rcases brokerRequest_asks q fuel hb₀ hready hfits ht with
    ⟨status, b₁, w₁, hne, hsent, heq⟩ | ⟨b₁, w₁, heq, ⟨hne, -⟩ | ⟨-, hsent, hcap, hopen, hwait, -⟩⟩
  · rw [heq] at hrun
    cases hrun
    exact .inl ⟨status, hne, rfl, hsent⟩
  · exact absurd rfl hne
  · rw [heq] at hrun
    obtain ⟨hended, more, hmore⟩ := requestAnswer_exchange q hwait hq hopen hrun
    rw [effectiveLimits_emptied, show b₁.storage.rawScratchCap = _ from hcap] at hended
    exact .inr ⟨more, by rw [hmore, show w₁.sent = _ from hsent]; simp, hended⟩

/-- **A request returns** if the stream has a record or an end. -/
theorem brokerRequest_exchange_returns (hq : q.Correct)
    (hend : records w.bytes ≠ [] ∨ s.ending ≠ .errWouldBlock) (hfuel : 2 * w.arrivals.length < fuel) :
    brokerRequest (exchangeOps s) q fuel service supplied requestBody timeoutMs b w ≠ none := by
  rcases brokerRequest_asks q fuel hb₀ hready hfits ht with
    ⟨status, b₁, w₁, -, -, heq⟩ | ⟨b₁, w₁, heq, ⟨hne, -⟩ | ⟨-, -, -, hopen, hwait, hturns⟩⟩
  · rw [heq]
    simp
  · exact absurd rfl hne
  · rw [heq]
    exact requestAnswer_exchange_returns q hwait hq hopen hend (hturns ▸ hfuel)

end Call

/-- A setting in which nothing fails and no time passes. -/
def sampleSetting : Setting :=
  ⟨fun _ => 0#64, .ok, .ok, defaultLimits, .ok, sampleRequestId, .ok, .ok, .errWouldBlock⟩

/-- The peer answers with one octet, and the transport does not have it at first. -/
def sampleExchange : Exchange :=
  ⟨[none, some (stuffed (answerFrame serviceTrustedTime sampleRequestId messageResponse) [7#8] ++ [0#8])],
    [], 0⟩

end Pbns
