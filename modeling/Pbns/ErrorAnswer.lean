/-
What the report of an error does to a session of the broker that waits for the peer
(`pbns_broker_receive`, `pbns_broker_bulk_receive` and `pbns_broker_upload_send` of
`src/core/broker.c`).

`BulkPlan.Reports` says that a record is the ERROR due next in a bulk session, and `Position` how
far a bulk session has come: as many records into the peer's stream as it has returned.
`Listening` is a session outside bulk mode that has seen nothing of the peer's stream.

* `Alive.calls_position` — the calls of a bulk session keep it in position;
* `bulkReceive_report` — a bulk session that comes to a report returns its code;
* `uploadBegin_listening`, `Listening.send` — an upload listens until its last record is out;
* `Listening.receive_report` — and a session that listens returns the code of a report.
-/
import Pbns.Request

namespace Pbns

open Octets Guard

/-! ### A report in a bulk session -/

def BulkPlan.errorFrame (plan : BulkPlan) (sequence : BitVec 32) : Frame :=
  ⟨plan.service, messageError, 0#8, plan.requestId, sequence⟩

/-- The record `t` reports `code`, and it is due after `sequence` frames. -/
structure BulkPlan.Reports (plan : BulkPlan) (sequence : BitVec 32) (t : Octets) (code : ℕ) :
    Prop where
  verdict : recordVerdict plan.encodedCap t = .ok t
  notExhausted : sequence ≠ uint32Max
  decodes : ∃ payload, frameDecode t plan.limits plan.rawScratchCap
      = .ok (plan.errorFrame sequence, payload) ∧
    IsReport plan.service code payload ∧ payload.length ≤ plan.decodedCap

section Report

variable {δ : Type} (q : Qcbor δ) {plan : BulkPlan} {clock : ℕ → BitVec 64} {closing : Status}
  {b b' : Broker} {w w' : Playback} {pending t : Octets} {code : ℕ}

theorem validatePayload_error {payload : Octets} (h : payload.length ≤ 65536) :
    validatePayload messageError payload = (.ok, true) := by
  rw [validatePayload, if_neg (by decide), if_neg (by decide), if_neg (by decide), if_pos rfl,
    if_pos (show payload.length ≤ controlPayloadMax from h)]

/-- The stream checker takes the report, and the session fails with its code. -/
theorem bulkRecord_report (hq : q.Correct) (h : BulkLive plan b) (hc : b.stream.complete = false)
    (hr : plan.Reports b.stream.nextSequence t code) :
    ∃ b', bulkRecord q t b = (.error (Status.ofCode code), b') ∧ b'.bulkFailed = true := by
  obtain ⟨payload, hdec, hreport, hcap⟩ := hr.decodes
  obtain ⟨-, -, -, hadm⟩ := frameDecode_eq_ok.mp hdec
  have hlen : payload.length ≤ 65536 := hadm.length_le h.limitsValid
  have hexp : Expected b.stream (plan.errorFrame b.stream.nextSequence) payload := by
    refine ⟨h.streamInitialized, h.streamNotFailed, hc, h.streamService.symm,
      h.streamRequestId.symm, rfl, rfl, hr.notExhausted, ?_, ?_⟩
    · exact congrArg Prod.fst (validatePayload_error hlen)
    · -- all the data of a session and a report behind it are far from the stream's bound
      have hrec := h.received
      have hbig := h.exactFits
      rw [h.streamLimit, h.streamTotal]
      unfold uint64Max
      omega
  obtain rfl := h.planEq
  have hdec' : frameDecode t b.limits b.storage.rawScratchCap
      = .ok (b.plan.errorFrame b.stream.nextSequence, payload) := hdec
  have htype : (b.plan.errorFrame b.stream.nextSequence).type = messageError := rfl
  rw [bulkRecord, hdec']
  simp only [streamAccept_of_expected hexp]
  rw [if_neg (by simp [htype]), bulkFrame, if_pos htype]
  exact ⟨_, congrArg (failBulkSession · _) ((decodeRemoteError_eq q b.service hq hcap).1 code hreport),
    rfl⟩

/-- A turn goes on with the record, or comes to its end and returns the code. -/
theorem bulkTurn_report (hq : q.Correct) (h : Reading plan clock b w pending) {rest : Octets}
    (ht : 0#8 ∉ t) (hpend : pending = t ++ 0#8 :: rest)
    (hr : plan.Reports b.stream.nextSequence t code) :
    (bulkTurn q b).1 = none ∨
      ∃ b', bulkTurn q b = (some (.error (Status.ofCode code)), b') ∧ b'.bulkFailed = true := by
  obtain ⟨held, hz, hheld, hpending⟩ := h.held
  by_cases hu : 0#8 ∈ b.unread
  · right
    obtain ⟨front, back, hsplit, hfront⟩ := List.eq_append_cons_of_mem hu
    have hsame : held ++ front ++ 0#8 :: (back ++ w.bytes) = t ++ 0#8 :: rest := by
      rw [← hpend, ← hpending, hsplit]
      simp
    obtain ⟨rfl, -⟩ := delimited_inj (by simp [hz, hfront]) ht hsame
    obtain ⟨reader, storage, -, hlen, hpush⟩ := recordReaderPush_close hheld hfront back
    have hcap : plan.encodedCap = b.storage.encoded.length :=
      congrArg BulkPlan.encodedCap h.live.planEq.symm
    have hverdict := hr.verdict
    rw [hcap] at hverdict
    obtain ⟨b', hrec, hfail⟩ := bulkRecord_report q hq (h.live.took reader hlen (front.length + 1))
      h.notComplete hr
    refine ⟨b', ?_, hfail⟩
    rw [bulkTurn, hsplit, hpush, hverdict]
    change (some (bulkRecord q (held ++ front) (b.took reader storage (front.length + 1))).1,
      (bulkRecord q (held ++ front) (b.took reader storage (front.length + 1))).2) = _
    rw [hrec]
  · left
    obtain ⟨reader, storage, hstep, -, -⟩ := bulkTurn_open q hheld hu
    rw [hstep]

/-- **A receive that comes to a report** returns its code. -/
theorem bulkReceiveLoop_report (hq : q.Correct) {fuel : ℕ} {result : Except Status Response}
    (h : Reading plan clock b w pending) {rest : Octets} (ht : 0#8 ∉ t)
    (hpend : pending = t ++ 0#8 :: rest) (hr : plan.Reports b.stream.nextSequence t code)
    (hrun : bulkReceiveLoop (playbackOps clock closing) q fuel b w = some (result, b', w')) :
    result = .error (Status.ofCode code) ∧ b'.bulkFailed = true := by
  induction fuel generalizing b w with
  | zero => exact absurd hrun (by simp [bulkReceiveLoop])
  | succ fuel ih =>
    rw [bulkReceiveLoop] at hrun
    rcases bulkStep_playback q closing h with ⟨b₁, w₁, hstep, hread, hsame, -⟩ |
      ⟨-, -, result₁, b₁, -, -, hstep, -⟩
    · rw [hstep] at hrun
      exact ih hread (by rwa [hsame.stream]) hrun
    · rw [hstep] at hrun
      obtain ⟨rfl, rfl, rfl⟩ := Prod.mk.inj (Option.some.inj hrun) |>.imp_right Prod.mk.inj
      by_cases he : b.receiveLength ≤ b.receiveOffset
      · -- a turn that asks the transport does not end the call
        obtain ⟨b₂, w₂, hask, -⟩ := bulkAsk_playback closing h he
        rw [bulkStep, if_pos he, hask] at hstep
        simp at hstep
      · rw [bulkStep, if_neg he] at hstep
        rcases bulkTurn_report q hq h ht hpend hr with hnone | ⟨b₂, hturn, hfail⟩
        · have := congrArg Prod.fst hstep
          simp only [hnone] at this
          simp at this
        · rw [hturn] at hstep
          simp only [Prod.mk.injEq, Option.some.injEq] at hstep
          obtain ⟨rfl, rfl, -⟩ := hstep
          exact ⟨rfl, hfail⟩

end Report

/-! ### How far a bulk session has come -/

/-- The session is `n` records into the stream `all`. -/
structure Position (all : Octets) (n : ℕ) (b : Broker) (w : Playback) : Prop where
  sequence : b.stream.nextSequence = BitVec.ofNat 32 n
  ahead : records (b.unread ++ w.bytes) = (records all).drop n

section Sessions

variable {δ : Type} (q : Qcbor δ) {plan : BulkPlan} {clock : ℕ → BitVec 64} {closing : Status}
  {all : Octets} {b b' : Broker} {w w' : Playback} {done : List Response} {fuel : ℕ}

theorem Position.passed {n k : ℕ} (hp : Position all n b w) (h : RecordsPassed k b w b' w') :
    Position all (n + k) b' w' :=
  ⟨by rw [h.sequence, hp.sequence, BitVec.ofNat_add], by rw [h.ahead, hp.ahead, List.drop_drop]⟩

/-- **A run of calls** keeps an open session healthy and in position. -/
theorem Alive.calls_position {calls : List BulkCall} {returns : List BulkReturn}
    (h : Alive plan clock all b w done) (hp : Position all done.length b w)
    (hrun : bulkCalls (playbackOps clock closing) q fuel calls b w = (returns, b', w'))
    (hopen : b'.bulkClosed = false) :
    Alive plan clock all b' w' (done ++ received returns) ∧
      Position all (done ++ received returns).length b' w' := by
  have hruns := bulkCalls_rule q (playbackOps clock closing)
    (I := fun done b w => Alive plan clock all b w done ∧ Position all done.length b w)
    (fun ⟨h, hp⟩ hcall => (h.call q hcall).1.imp_left fun ⟨halive, hpassed⟩ =>
      ⟨halive, by rw [List.length_append]; exact hp.passed hpassed⟩) ⟨h, hp⟩ hrun
  exact hruns.resolve_right fun ⟨hclosed, _⟩ => by simp [hopen] at hclosed

/-- **A healthy session that comes to a report** returns its code, and is closed. -/
theorem bulkReceive_report (hq : q.Correct) (h : Alive plan clock all b w done)
    (hp : Position all done.length b w) (hc : b.stream.complete = false) {t : Octets} {code : ℕ}
    (ht : (records all)[done.length]? = some t)
    (hr : plan.Reports (BitVec.ofNat 32 done.length) t code) (hfuel : turns b w < fuel) :
    ∃ b' w', bulkReceive (playbackOps clock closing) q fuel b w
      = some (.error (Status.ofCode code), b', w') ∧ b'.bulkClosed = true := by
  have hmore := (List.getElem?_eq_some_iff.mp ht).1
  have hreturns : bulkReceive (playbackOps clock closing) q fuel b w ≠ none :=
    h.receive_returns q hc hmore hfuel
  rcases hrun : bulkReceive (playbackOps clock closing) q fuel b w with _ | ⟨result, b', w'⟩
  · exact absurd hrun hreturns
  · refine ⟨b', w', ?_⟩
    rw [bulkReceive, if_neg (by simp [h.live.not_closed, hc])] at hrun
    -- the record that ends the call is the one at the session's position
    obtain ⟨u, rest, hu, hpend, -⟩ := bulkReceiveLoop_playback q (h.reading hc) hrun
    have hahead := hp.ahead
    rw [hpend, records_close hu, List.drop_eq_getElem_cons hmore] at hahead
    obtain rfl : u = t := by
      rw [(List.cons.inj hahead).1]
      rw [List.getElem?_eq_getElem hmore] at ht
      exact Option.some.inj ht
    obtain ⟨rfl, hfail⟩ := bulkReceiveLoop_report q hq (h.reading hc) hu hpend
      (by rwa [hp.sequence]) hrun
    exact ⟨rfl, bulkClosed_of_failed hfail⟩

end Sessions

/-! ### Sessions that listen -/

/-- A session outside bulk mode that has seen nothing of the peer's `stream`. -/
structure Listening (s : Setting) (limits : FrameLimits) (service : ServiceId)
    (requestId : RequestId) (b : Broker) (w : Exchange) (stream : Octets) : Prop where
  waiting : Waiting limits service requestId b
  isOpen : b.initialized = true ∧ b.active = true ∧ b.bulkMode = false
  offset : b.receiveOffset = 0
  length : b.receiveLength = 0
  reader : Holding b.storage.encoded b.reader []
  fits : w.Fits b.storage.receiveCap
  inTime : ∀ n, s.clock n < b.deadlineMs
  bytes : w.bytes = stream

section Listen

variable {δ : Type} (q : Qcbor δ) {s : Setting} {limits : FrameLimits} {service : ServiceId}
  {requestId : RequestId} {b b' : Broker} {w w' : Exchange} {stream : Octets}

variable (h : Listening s limits service requestId b w stream)

include h

theorem Listening.awaiting : Awaiting s limits service requestId b w stream :=
  ⟨h.waiting, by rw [h.length]; exact Nat.zero_le _, h.fits, h.inTime, [], by simp, h.reader, by
    rw [Broker.unread_of_drained (by rw [h.length]; exact Nat.zero_le _), h.bytes]; rfl⟩

variable {payload : Octets} {fuel : ℕ}

/-- A record that goes out changes nothing about that. -/
theorem Listening.emit {frame : Frame}
    (hrun : emitFrame (exchangeOps s).toBrokerOps frame payload b w = (.ok, b', w')) :
    Listening s limits service requestId b' w' stream ∧
      b'.storage.rawScratchCap = b.storage.rawScratchCap ∧ b'.uploadMode = b.uploadMode := by
  obtain ⟨harrivals, -, hout⟩ := emitFrame_exchange hrun h.waiting.deadlineActive h.inTime
  obtain ⟨-, encoded, rawScratch, hlen, rfl⟩ := hout rfl
  refine ⟨{ h with
    waiting := h.waiting.updated rfl rfl rfl rfl rfl hlen rfl, reader := h.reader.of_nil _
    fits := ?_, bytes := ?_ }, rfl, rfl⟩
  · intro chunk hmem
    rw [harrivals] at hmem
    exact h.fits chunk hmem
  · rw [← h.bytes, Exchange.bytes, Exchange.bytes, harrivals]

/-- Nor do the fields of an upload. -/
theorem Listening.upload (uploadMode : Bool) (uploadNextSequence : BitVec 32) :
    Listening s limits service requestId { b with uploadMode, uploadNextSequence } w stream :=
  { h with waiting := h.waiting.updated rfl rfl rfl rfl rfl rfl rfl }

theorem Listening.emitted {finalRecord : Bool}
    (hrun : uploadRecords (exchangeOps s) payload finalRecord b w = (.ok, b', w')) :
    Listening s limits service requestId b' w' stream ∧
      b'.storage.rawScratchCap = b.storage.rawScratchCap ∧ b'.uploadMode = b.uploadMode := by
  rw [uploadRecords] at hrun
  split at hrun
  · rename_i b₁ w₁ hdata
    obtain ⟨hlisten, hcap, hmode⟩ := h.emit hdata
    have hlisten := hlisten.upload b₁.uploadMode (b₁.uploadNextSequence + 1#32)
    simp only at hrun
    split_ifs at hrun
    · obtain ⟨hlast, hcap', hmode'⟩ := hlisten.emit hrun
      exact ⟨hlast, hcap'.trans hcap, hmode'.trans hmode⟩
    · obtain ⟨-, rfl, rfl⟩ := Prod.mk.inj hrun |>.imp_right Prod.mk.inj
      exact ⟨hlisten, hcap, hmode⟩
  · rename_i hne _
    exact absurd (congrArg Prod.fst hrun) hne

/-- An upload goes on listening behind each record but the last. -/
theorem Listening.send
    (hrun : uploadSend (exchangeOps s) q fuel payload false b w = some (.ok none, b', w')) :
    Listening s limits service requestId b' w' stream ∧
      b'.storage.rawScratchCap = b.storage.rawScratchCap ∧ b'.uploadMode = b.uploadMode := by
  rw [uploadSend] at hrun
  split_ifs at hrun with hempty hstate hlimit hfinal
  · simp at hrun
  · simp at hrun
  · simp at hrun
  · exact hfinal.elim
  split at hrun
  · rename_i b₁ w₁ hrecords
    cases hrun
    exact h.emitted hrecords
  · simp at hrun

/-- **A session that listens** returns the code of a report that comes first. -/
theorem Listening.receive_report (hq : q.Correct) {t : Octets} {code : ℕ}
    (ht : (records stream).head? = some t)
    (hdec : frameDecode t limits b.storage.rawScratchCap = .ok (answerFrame service requestId messageError, payload))
    (hreport : IsReport service code payload) (hfuel : 2 * w.arrivals.length < fuel) :
    ∃ b' w', brokerReceive (exchangeOps s).toBrokerOps q fuel b w
      = some (.error (Status.ofCode code), b', w') := by
  have hsome : records stream ≠ [] := by
    intro hnil
    rw [hnil] at ht
    simp at ht
  have hreturns : receiveLoop (exchangeOps s).toBrokerOps q fuel b w ≠ none :=
    receiveLoop_exchange_returns q h.awaiting hq (.inl hsome)
      (by simpa [waitTurns, h.offset, h.length] using hfuel)
  rw [brokerReceive, if_neg (by simp [h.isOpen])]
  rcases hrun : receiveLoop (exchangeOps s).toBrokerOps q fuel b w with _ | ⟨result, b', w'⟩
  · exact absurd hrun hreturns
  · obtain ⟨-, hended, -⟩ := receiveLoop_exchange q h.awaiting hq hrun
    unfold Ended at hended
    rw [ht] at hended
    exact ⟨b', w', by rw [hended.report payload code hdec hreport]⟩

/-- The last record of an upload is out: the wait returns the code of a report that comes first. -/
theorem uploadAnswer_report (hq : q.Correct) {t : Octets} {code : ℕ}
    (ht : (records stream).head? = some t)
    (hdec : frameDecode t limits b.storage.rawScratchCap = .ok (answerFrame service requestId messageError, payload))
    (hreport : IsReport service code payload) (hfuel : 2 * w.arrivals.length < fuel) :
    ∃ b' w', uploadAnswer (exchangeOps s) q fuel b w = some (.error (Status.ofCode code), b', w') := by
  have hlisten := h.upload false b.uploadNextSequence
  obtain ⟨b₁, w₁, hrun⟩ := hlisten.receive_report q hq ht hdec hreport hfuel
  -- giving the upload up does not change the status
  have hstatus : (abortUploadSession (exchangeOps s) (Status.ofCode code) b₁ w₁).1
      = Status.ofCode code := by
    rw [abortUploadSession]
    split_ifs <;> rfl
  rw [uploadAnswer, hrun]
  rcases habort : abortUploadSession (exchangeOps s) (Status.ofCode code) b₁ w₁ with ⟨status, b₂, w₂⟩
  rw [habort] at hstatus
  obtain rfl : status = Status.ofCode code := hstatus
  exact ⟨b₂, w₂, by simp only [habort]⟩

omit h

theorem uploadOpen_listening {requestBody : Octets}
    (hrun : uploadOpen (exchangeOps s) service requestBody b w = (.ok, b', w')) (hb : b.Quiet)
    (hs : serviceIsValid service = true) (hfits : w.Fits b.storage.receiveCap)
    (hd : b.deadlineActive = true) (ht : ∀ n, s.clock n < b.deadlineMs) (hid : b.requestId = requestId)
    (hreader : Holding b.storage.encoded b.reader []) :
    Listening s (effectiveLimits b.storage s.limits) service requestId b' w' w.bytes ∧
      b'.storage.rawScratchCap = b.storage.rawScratchCap ∧ b'.uploadMode = true := by
  have habandon : ∀ {status b₁ w₁}, status ≠ .ok →
      abandonSession (exchangeOps s).toBrokerOps status b₁ w₁ ≠ (.ok, b', w') := by
    intro status b₁ w₁ hne heq
    exact hne (congrArg Prod.fst heq)
  rw [uploadOpen] at hrun
  split at hrun
  · rename_i b₁ w₁ hquery
    obtain ⟨rfl, ⟨hne, -⟩ | ⟨-, -, hvalid, rfl⟩⟩ := queryEffectiveLimits_cases hquery
    · exact absurd rfl hne
    split at hrun
    · exact absurd hrun (habandon (by decide))
    simp only at hrun
    rw [if_neg (by simp [streamInit_of_valid hs])] at hrun
    split at hrun
    · rename_i b₂ w₂ hemit
      obtain ⟨-, rfl, rfl⟩ := Prod.mk.inj hrun |>.imp_right Prod.mk.inj
      have hsent := fun hstart : Listening s (effectiveLimits b.storage s.limits) service requestId _
        w₁ w₁.bytes => hstart.emit hemit
      refine hsent ⟨⟨rfl, rfl, hid, ?_, hvalid, ?_, ?_, hd⟩, ⟨hb.initialized, rfl, hb.notBulk⟩, hb.offset,
        hb.length, hreader, hfits, ht, rfl⟩
      · simp only [streamInit_of_valid hs, freshStream, hid, exchangeOps]
      · simp only [effectiveLimits]
        omega
      · simp only [effectiveLimits]
        omega
    · rename_i status b₂ w₂ hne hemit
      rw [abortUploadSession] at hrun
      split_ifs at hrun
      · exact absurd (congrArg Prod.fst hrun) hne
      · exact absurd (congrArg Prod.fst hrun) hne
  · rename_i hne _
    exact absurd hrun (habandon hne)

/-- **An upload that begins listens.** -/
theorem uploadBegin_listening {b₀ : Broker} {log : List TransportCall} {requestBody : Octets}
    {timeoutMs : BitVec 32} (hb₀ : b₀.Fresh)
    (hready : b.initialized = true → b.opened = false → Ready b₀ b log)
    (hfits : w.Fits b.storage.receiveCap)
    (ht : ∀ n, s.clock n < deadlineOf (s.clock w.ticks) timeoutMs)
    (hrun : uploadBegin (exchangeOps s) service requestId requestBody timeoutMs b w
      = (.ok, b', w')) :
    Listening s (effectiveLimits b.storage s.limits) service requestId b' w' w.bytes ∧
      b'.storage.rawScratchCap = b.storage.rawScratchCap ∧ b'.uploadMode = true := by
  rw [uploadBegin] at hrun
  split_ifs at hrun with hargs hstate hservice
  · simp at hrun
  · simp at hrun
  · simp at hrun
  have hquiet := (hready (by simp_all) (by simp_all)).quiet hb₀
  have hdeadline : beginDeadline (exchangeOps s).toBrokerOps timeoutMs
      { wipeRequestStorage false b with reader := recordReaderReset b.reader, requestId } w
      = (.ok, { wipeRequestStorage false b with
          reader := recordReaderReset b.reader, requestId
          deadlineMs := deadlineOf (s.clock w.ticks) timeoutMs, deadlineActive := true },
        { w with ticks := w.ticks + 1 }) := rfl
  simp only at hrun
  split at hrun
  · rename_i b₁ w₁ hbegin
    obtain ⟨-, rfl, rfl⟩ := Prod.mk.inj (hdeadline.symm.trans hbegin) |>.imp_right Prod.mk.inj
    split at hrun
    · rename_i w₂ hopen
      obtain ⟨-, rfl⟩ := Prod.mk.inj hopen
      obtain ⟨hlisten, hcap, hmode⟩ := uploadOpen_listening hrun
        { hquiet with }
        (by simpa using hservice) hfits rfl ht rfl
        (holding_reset ((recordReaderReset_initialized b.reader).symm.trans hquiet.reader) _)
      exact ⟨by rwa [← effectiveLimits_emptied], hcap, hmode⟩
    · rename_i hne _
      exact absurd (congrArg Prod.fst hrun) hne
  · rename_i hne _
    exact absurd (congrArg Prod.fst hrun) hne

end Listen

end Pbns
