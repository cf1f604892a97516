/-
The client's side of an artifact transfer: the loop of `pbns_recovery_live_artifact`
(`src/core/recovery_live.c`) over the broker's bulk calls and the recovery stream.

A step of `LiveClient` is one turn of the receive loop inside
`pbns_broker_bulk_receive`; when that call returns, the body of the artifact loop
runs with it.  `linkOps now k` is a transport that hands out at most `k` of the octets
on their way to the client and takes everything it is given.

`LiveClient.Taking r held` is the state of a client that has taken `r` frames and holds
the octets `held` of the next:

* `LiveClient.Taking.ask`, `LiveClient.Taking.gather` — octets arrive and are put aside;
* `LiveClient.Taking.deliver` — a chunk is taken, and every eighth is acknowledged;
* `LiveClient.Taking.finish` — COMPLETE ends the transfer.
-/
import Pbns.BulkHistory
import Pbns.RecoveryHandler

namespace Pbns

open Octets Guard Recovery

/-- Where the client is: about to call `bulk_receive`, inside it, or out of the loop. -/
inductive LivePhase
  | entering
  | receiving
  | ended (status : Status)
  deriving DecidableEq

/-- A running `pbns_recovery_live_artifact`; `acks` counts the acknowledgements sent. -/
structure LiveClient (η : Type) where
  broker : Broker
  stream : RecoveryStream η
  phase : LivePhase
  acks : ℕ

section Step

variable {σ δ η : Type} (ops : BrokerOps σ) (q : Qcbor δ) (hash : HashOps η)

/-- The body of the loop behind a frame. -/
def LiveClient.body (r : Response) (c : LiveClient η) (w : σ) : LiveClient η × σ :=
  if r.frame.type = messageComplete then
    match recoveryStreamComplete hash c.stream r.frame r.payload with
    | (.ok, stream) =>
      let (status, broker, w) := bulkFinish ops c.broker w
      ({ c with stream, broker, phase := .ended status }, w)
    | (status, stream) => ({ c with stream, phase := .ended status }, w)
  else
    match recoveryStreamAccept hash c.stream r.frame r.payload with
    | (.ok, ack, stream) =>
      if ack.required then
        match bulkAck ops ack.nextSequence ack.window c.broker w with
        | (.ok, broker, w) =>
          ({ c with stream, broker, phase := .entering, acks := c.acks + 1 }, w)
        | (status, broker, w) => ({ c with stream, broker, phase := .ended status }, w)
      else ({ c with stream, phase := .entering }, w)
    | (status, _, stream) => ({ c with stream, phase := .ended status }, w)

/-- One step: the checks of `bulk_receive`, or a turn of its loop. -/
def LiveClient.step (c : LiveClient η) (w : σ) : LiveClient η × σ :=
  match c.phase with
  | .entering =>
    if c.broker.bulkClosed ∨ c.broker.stream.complete then ({ c with phase := .ended .errState }, w)
    else ({ c with phase := .receiving }, w)
  | .receiving =>
    match bulkStep ops q c.broker w with
    | (none, broker, w) => ({ c with broker }, w)
    | (some (.error status), broker, w) => ({ c with broker, phase := .ended status }, w)
    | (some (.ok r), broker, w) => LiveClient.body ops hash r { c with broker } w
  | .ended _ => (c, w)

theorem LiveClient.step_receiving {c : LiveClient η} (hp : c.phase = .receiving) (w : σ) :
    c.step ops q hash w = match bulkStep ops q c.broker w with
      | (none, broker, w) => ({ c with broker }, w)
      | (some (.error status), broker, w) => ({ c with broker, phase := .ended status }, w)
      | (some (.ok r), broker, w) => LiveClient.body ops hash r { c with broker } w := by
  obtain ⟨broker, stream, phase, acks⟩ := c
  obtain rfl : phase = .receiving := hp
  rfl

end Step

/-! ### The transport -/

/-- The client's end of the connection: octets on their way to it, and octets it has
handed over that are not on their way yet. -/
structure Link where
  incoming : Octets
  unsent : Octets

/-- A healthy transport: at time `now` it hands out at most `k` octets. -/
def linkOps (now : BitVec 64) (k : ℕ) : BrokerOps Link where
  monotonicMs l := (.ok, now, l)
  openTransport l := (.ok, l)
  closeTransport l := (.ok, l)
  send octets _ l := (.ok, { l with unsent := l.unsent ++ octets })
  receive cap _ l :=
    let chunk := l.incoming.take (min k cap)
    if chunk = [] then (.errWouldBlock, [], l)
    else (.ok, chunk, { l with incoming := l.incoming.drop chunk.length })
  limits l := (.ok, defaultLimits, l)

/-! ### A client that follows the transfer -/

/-- The session of a transfer, with room for its frames. -/
structure BulkPlan.Carries (plan : BulkPlan) (requestId : RequestId) (size : ℕ) : Prop where
  service : plan.service = serviceRecoveryArtifact
  requestId : plan.requestId = requestId
  exactDataSize : plan.exactDataSize = size
  limits : Recovery.Fits plan.limits size
  raw : 40 + min 16384 size ≤ plan.rawScratchCap
  encoded : 40 + min 16384 size + (40 + min 16384 size) / 254 + 2 ≤ plan.encodedCap

section Taking

variable {δ η : Type} {q : Qcbor δ} {hash : HashOps η} {sha256 : Octets → Digest}
  {absorbed : η → Octets → Prop} {plan : BulkPlan} {requestId : RequestId} {digest : Digest}
  {image : Octets} {r : ℕ} {held : Octets} {c : LiveClient η} {l : Link} {now : BitVec 64} {k : ℕ}

/-- The broker has taken the first `r` frames, none of them COMPLETE, and sent `acks`
acknowledgements; it holds the octets `held` of the next frame. -/
structure Broker.Taken (plan : BulkPlan) (image : Octets) (r acks : ℕ) (held : Octets) (b : Broker) :
    Prop where
  live : BulkLive plan b
  notComplete : b.stream.complete = false
  sequence : b.stream.nextSequence = BitVec.ofNat 32 r
  received : b.bulkReceivedDataSize = min (16384 * r) image.length
  nextAck : b.bulkNextAckSequence = BitVec.ofNat 32 acks
  inBuffer : b.receiveLength ≤ b.receiveData.length
  receiveCap : 0 < b.storage.receiveCap
  holding : Holding b.storage.encoded b.reader held
  noDelimiter : 0#8 ∉ held

/-- The client has taken the first `r` frames and acknowledged every eighth. -/
structure LiveClient.Taking (absorbed : η → Octets → Prop) (plan : BulkPlan) (digest : Digest)
    (image : Octets) (r : ℕ) (held : Octets) (c : LiveClient η) : Prop where
  broker : c.broker.Taken plan image r (r / 8) held
  stream : c.stream.Receiving absorbed plan.requestId digest image r
  acks : c.acks = r / 8
  bounded : r ≤ chunkCount image.length

/-- The record of the next frame is the one the session takes. -/
theorem BulkPlan.Carries.expects (hp : plan.Carries requestId image.length)
    (hmax : image.length ≤ recoveryImageMax) (hr : r ≤ chunkCount image.length) :
    bulkExpects plan (BitVec.ofNat 32 r) (min (16384 * r) image.length)
        (transferRecord requestId image r)
      = some ⟨transferFrame requestId image.length r, chunk r image⟩ := by
  have hcount := chunkCount_le hmax
  have hadm := hp.limits.transfer requestId r
  have hlen := length_transferRecord requestId image r
  have hchunk := length_chunk r image
  have hroom := hp.limits.record
  have hcap := hp.encoded
  have hraw := hp.raw
  have hne : transferRecord requestId image r ≠ [] := by
    intro hnil
    have hdec := cobsDecode_encode (Nat.le_refl (rawRecord crc32c
      (transferFrame requestId image.length r) (chunk r image)).length)
    rw [show Cobs.encode (rawRecord crc32c (transferFrame requestId image.length r) (chunk r image))
      = [] from hnil] at hdec
    exact absurd hdec (by simp [cobsDecode])
  rw [bulkExpects, recordVerdict, if_neg hne, if_neg (by omega)]
  refine frameExpects_eq_some.mpr ⟨frameDecode_stuffed hp.limits.valid hadm ?_ (by omega), ?_⟩
  · rw [transferRecord] at hlen
    omega
  refine ⟨hp.service.symm, hp.requestId.symm, rfl, ?_, ?_⟩
  · intro heq
    have := congrArg BitVec.toNat heq
    rw [BitVec.toNat_ofNat, Nat.mod_eq_of_lt (by omega)] at this
    have : uint32Max.toNat = 2 ^ 32 - 1 := by decide
    omega
  · rw [hp.exactDataSize]
    rcases Nat.lt_or_eq_of_le hr with hlt | heq
    · have hleft := lt_chunkCount_iff.mp hlt
      refine .inl ⟨transferFrame_data requestId hlt, ?_, by simp only; omega⟩
      intro hnil
      rw [show chunk r image = [] from hnil, List.length_nil] at hchunk
      omega
    · have hcover : image.length ≤ 16384 * chunkCount image.length :=
        Chunks.le_mul_count (by decide) image.length
      exact .inr ⟨transferFrame_complete requestId (Nat.le_of_eq heq.symm), by rw [heq]; omega⟩

/-! ### The broker's calls -/

section Broker

variable {b : Broker} {acks : ℕ}

variable (h : b.Taken plan image r acks held)

include h

theorem Broker.Taken.buffered {receiveData : Octets} (receiveOffset receiveLength : ℕ)
    (hlen : receiveLength ≤ receiveData.length) :
    Broker.Taken plan image r acks held { b with receiveData, receiveOffset, receiveLength } :=
  { h with live := h.live.buffered _ _ _, inBuffer := hlen }

omit h in
theorem remainingTimeout_link (hd : b.deadlineActive = true) (ht : now < b.deadlineMs) :
    ∃ remainingMs, remainingTimeout (linkOps now k) b l = (.ok remainingMs, l) := by
  have hlt : ¬ b.deadlineMs ≤ now := by simpa using ht
  simp only [remainingTimeout, hd, linkOps, if_neg hlt]
  exact ⟨_, rfl⟩

/-- Asking in time for octets: what the transport hands out is at hand. -/
theorem Broker.Taken.ask (ht : now < b.deadlineMs) : ∃ b',
    bulkAsk (linkOps now k) b l
      = (none, b', { l with incoming := l.incoming.drop (min k b.storage.receiveCap) }) ∧
    b'.Taken plan image r acks held ∧
    b'.unread = l.incoming.take (min k b.storage.receiveCap) ∧ b'.deadlineMs = b.deadlineMs := by
  have hdrained : b.drained.Taken plan image r acks held := h.buffered 0 0 (Nat.zero_le _)
  obtain ⟨remainingMs, hrt⟩ := remainingTimeout_link (b := b.drained) (k := k) (l := l)
    h.live.deadlineActive ht
  obtain ⟨chunk, hchunk⟩ : ∃ chunk, l.incoming.take (min k b.storage.receiveCap) = chunk := ⟨_, rfl⟩
  have hlen : chunk.length ≤ b.storage.receiveCap := by
    rw [← hchunk, List.length_take]
    omega
  have hdrop : l.incoming.drop chunk.length = l.incoming.drop (min k b.storage.receiveCap) := by
    rw [← hchunk, List.length_take, ← List.drop_eq_drop_min]
  rw [bulkAsk, hrt]
  simp only [linkOps, hchunk]
  by_cases hnil : chunk = []
  · -- nothing yet
    rw [hnil, List.length_nil, List.drop_zero] at hdrop
    refine ⟨b.drained, ?_, hdrained, ?_, rfl⟩
    · simp [bulkAwait, hnil, ← hdrop]
    · simp [Broker.unread, Broker.drained, hnil]
  · have hcap : ¬ b.drained.storage.receiveCap < chunk.length := Nat.not_lt.mpr hlen
    refine ⟨{ b.drained with receiveData := chunk, receiveLength := chunk.length }, ?_,
      hdrained.buffered 0 _ (Nat.le_refl _), ?_, rfl⟩
    · simp [bulkAwait, hnil, hcap, hdrop]
    · simp [Broker.unread, Broker.drained]

/-- Octets without a delimiter are put aside. -/
theorem Broker.Taken.gather (q : Qcbor δ) (hz : 0#8 ∉ b.unread) : ∃ b', bulkTurn q b = (none, b') ∧
      b'.Taken plan image r acks (held ++ b.unread) ∧ b'.unread = [] ∧
      b'.deadlineMs = b.deadlineMs := by
  obtain ⟨reader, storage, hturn, hlen, hhold⟩ := bulkTurn_open q h.holding hz
  refine ⟨_, hturn, { h with
    live := h.live.took reader hlen _, holding := hhold
    noDelimiter := by simp [h.noDelimiter, hz] }, ?_, rfl⟩
  rw [Broker.unread_took, List.drop_length]

/-- The delimiter of the next record delivers its frame. -/
theorem Broker.Taken.deliver (q : Qcbor δ) (hp : plan.Carries requestId image.length)
    (hmax : image.length ≤ recoveryImageMax) (hr : r ≤ chunkCount image.length) {t rest : Octets}
    (hu : b.unread = t ++ 0#8 :: rest) (ht : 0#8 ∉ t)
    (hrec : held ++ t = transferRecord requestId image r) : ∃ b',
      bulkTurn q b = (some (.ok ⟨transferFrame requestId image.length r, chunk r image⟩), b') ∧
      b'.unread = rest ∧ b'.deadlineMs = b.deadlineMs ∧
      (r < chunkCount image.length → b'.Taken plan image (r + 1) acks []) ∧
      (r = chunkCount image.length → BulkLive plan b' ∧ b'.stream.complete = true) := by
  have hexp := hp.expects hmax hr
  have hturn := bulkTurn_close q h.live h.notComplete h.holding ht hu
  rw [hrec, h.sequence, h.received, hexp] at hturn
  obtain ⟨reader, storage, hlen, hinit, hstep⟩ := hturn
  have hframe := frameExpects_of_bulkExpects hexp
  have htook := h.live.took reader hlen (t.length + 1)
  rw [← h.sequence, ← h.received] at hframe
  have hdel := htook.delivered hframe
  refine ⟨_, hstep, ?_, rfl, ?_, ?_⟩
  · change (b.took reader storage (t.length + 1)).unread = rest
    rw [Broker.unread_took, hu, List.drop_append, List.drop_of_length_le (by omega)]
    simp
  · intro hlt
    have hleft := lt_chunkCount_iff.mp hlt
    refine ⟨hdel.1, ?_, ?_, ?_, h.nextAck, h.inBuffer, h.receiveCap, holding_reset hinit _,
      by simp⟩
    · rw [hdel.2, transferFrame_data requestId hlt]
      rfl
    · exact (congrArg (· + 1#32) h.sequence).trans (BitVec.ofNat_add r 1).symm
    · refine (congrArg (· + (chunk r image).length) h.received).trans ?_
      rw [length_chunk]
      omega
  · intro heq
    refine ⟨hdel.1, ?_⟩
    rw [hdel.2, transferFrame_complete requestId (Nat.le_of_eq heq.symm)]
    rfl

omit h in
/-- Sending an acknowledgement, with room for it in the shared memory. -/
theorem sendFrame_ack (requestId : RequestId) (b : Broker) (l : Link) (now : BitVec 64) (k : ℕ)
    (remainingMs : BitVec 32) (hacks : 8 * (acks + 1) ≤ 16384)
    (hraw : 48 ≤ b.storage.rawScratchCap) (hcap : 50 ≤ b.storage.encoded.length) :
    ∃ encoded rawScratch, encoded.length = b.storage.encoded.length ∧
      sendFrame (linkOps now k) (ackFrame requestId acks).toFrame (ackFrame requestId acks).payload
          remainingMs b l
        = (.ok, { b with storage.encoded := encoded, rawScratch },
          { l with unsent := l.unsent ++ (ackRecord requestId acks ++ [0#8]) }) := by
  have hroom : 40 + (ackFrame requestId acks).payload.length ≤ b.storage.rawScratchCap := by
    rw [length_ackFrame_payload]
    exact hraw
  have hout : 40 + (ackFrame requestId acks).payload.length +
      (40 + (ackFrame requestId acks).payload.length) / 254 + 2 ≤ b.storage.encoded.length := by
    rw [length_ackFrame_payload]
    exact hcap
  have hlen := frameEncode_length (ackFrame requestId acks).toFrame
    (ackFrame requestId acks).payload b.storage.encoded b.storage.rawScratchCap
  have henc := frameEncode_of_admissible (ackFrame_admissible hacks) hroom hout
  rw [henc] at hlen
  refine ⟨_, encodeScratch (ackFrame requestId acks).toFrame (ackFrame requestId acks).payload
    b.storage.encoded.length b.rawScratch, hlen, ?_⟩
  rw [sendFrame, henc]
  simp only [linkOps]
  rw [List.take_left' (by simp)]
  rfl

/-- The acknowledgement that is due after `8 * (acks + 1)` chunks passes the checks. -/
theorem Broker.Taken.ack_args (hr : r = 8 * (acks + 1)) (hmax : r ≤ 16384) :
    ¬ (BitVec.ofNat 32 r = 0#32 ∨ BitVec.ofNat 32 r ≠ b.stream.nextSequence ∨
      (BitVec.ofNat 32 r).toNat ≠ (b.bulkNextAckSequence.toNat + 1) * bulkWindow.toNat ∨
      recoveryAckWindow ≠ bulkWindow ∨ b.bulkNextAckSequence = uint32Max) := by
  have hnext : (BitVec.ofNat 32 r).toNat = r := by
    rw [BitVec.toNat_ofNat, Nat.mod_eq_of_lt (by omega)]
  have hacks : (BitVec.ofNat 32 acks).toNat = acks := by
    rw [BitVec.toNat_ofNat, Nat.mod_eq_of_lt (by omega)]
  rw [h.sequence, h.nextAck, hacks, hnext, show bulkWindow.toNat = 8 from rfl]
  rintro (h0 | h0 | h0 | h0 | h0)
  · have := congrArg BitVec.toNat h0
    rw [hnext] at this
    exact absurd this (by simp; omega)
  · exact h0 rfl
  · omega
  · exact h0 rfl
  · have := congrArg BitVec.toNat h0
    rw [hacks] at this
    have : uint32Max.toNat = 2 ^ 32 - 1 := by decide
    omega

omit h

/-- The acknowledgement of a full window goes out. -/
theorem Broker.Taken.ack (hp : plan.Carries requestId image.length)
    (hmax : image.length ≤ recoveryImageMax) (h : b.Taken plan image r acks [])
    (hr : r = 8 * (acks + 1)) (hb : r ≤ chunkCount image.length) (ht : now < b.deadlineMs) : ∃ b',
      bulkAck (linkOps now k) (BitVec.ofNat 32 r) recoveryAckWindow b l
        = (.ok, b', { l with unsent := l.unsent ++ (ackRecord requestId acks ++ [0#8]) }) ∧
      b'.Taken plan image r (acks + 1) [] ∧ b'.unread = b.unread ∧
      b'.deadlineMs = b.deadlineMs := by
  have hcount := chunkCount_le hmax
  -- eight chunks are in, so all frames are full ones and an acknowledgement fits too
  have hbig : 16384 < image.length := by
    have := lt_chunkCount_iff.mp (show 1 < chunkCount image.length by omega)
    omega
  obtain rfl := h.live.planEq
  obtain ⟨remainingMs, hrt⟩ := remainingTimeout_link (k := k) (l := l) h.live.deadlineActive ht
  have hraw := hp.raw
  have hcap := hp.encoded
  have hpayload : writeU32Be (BitVec.ofNat 32 r) ++ writeU32Be recoveryAckWindow
      = (ackFrame requestId acks).payload := by
    rw [hr, ackFrame, recoveryAckWindow, ackWindow]
  have hframe : (⟨b.service, messageAck, 0#8, b.requestId, b.bulkNextAckSequence⟩ : Frame)
      = (ackFrame requestId acks).toFrame := by
    rw [h.nextAck, show b.service = serviceRecoveryArtifact from hp.service,
      show b.requestId = requestId from hp.requestId, ackFrame]
  obtain ⟨encoded, rawScratch, hlen, hsend⟩ := sendFrame_ack requestId b l now k
    remainingMs (show 8 * (acks + 1) ≤ 16384 by omega) (show 48 ≤ b.plan.rawScratchCap by omega)
    (show 50 ≤ b.plan.encodedCap by omega)
  rw [bulkAck, if_neg (by simp [h.live.not_closed, h.notComplete]),
    if_neg (h.ack_args hr (by omega)), hrt]
  simp only [hpayload, hframe, hsend]
  refine ⟨_, rfl, { h with
    live := h.live.reencoded hlen _ _, nextAck := ?_, holding := h.holding.of_nil _ }, rfl, rfl⟩
  exact (congrArg (· + 1#32) h.nextAck).trans (BitVec.ofNat_add acks 1).symm

/-- After COMPLETE the session is finished. -/
theorem bulkFinish_link (now : BitVec 64) (k : ℕ) (l : Link) (h : BulkLive plan b)
    (hc : b.stream.complete = true) : ∃ b',
    bulkFinish (linkOps now k) b l = (.ok, b', l) ∧ b'.unread = [] := by
  have hexact : b.bulkExactDataSize = plan.exactDataSize := congrArg BulkPlan.exactDataSize h.planEq
  rw [bulkFinish, if_neg (by simp [h.not_closed, hc, h.completed hc, hexact]), finishSession]
  simp only [linkOps, ite_self]
  exact ⟨_, rfl, by simp [Broker.unread, wipeRequestStorage]⟩

end Broker

/-! ### The client's steps -/

/-- The call of `bulk_receive` goes through. -/
theorem LiveClient.Taking.enter {σ : Type} (ops : BrokerOps σ) (q : Qcbor δ) (hash : HashOps η)
    (h : c.Taking absorbed plan digest image r held) (hp : c.phase = .entering) (w : σ) :
    c.step ops q hash w = ({ c with phase := .receiving }, w) := by
  obtain ⟨broker, stream, phase, acks⟩ := c
  obtain rfl : phase = .entering := hp
  have hc : broker.stream.complete = false := h.broker.notComplete
  simp only [LiveClient.step, h.broker.live.not_closed, hc, Bool.false_eq_true, or_self, if_false]

variable (h : c.Taking absorbed plan digest image r held)

include h

variable (hp : c.phase = .receiving)

include hp

theorem LiveClient.Taking.ask (q : Qcbor δ) (hash : HashOps η)
    (he : c.broker.receiveLength ≤ c.broker.receiveOffset) (ht : now < c.broker.deadlineMs) :
    ∃ broker, c.step (linkOps now k) q hash l = ({ c with broker },
        { l with incoming := l.incoming.drop (min k c.broker.storage.receiveCap) }) ∧
      broker.Taken plan image r (r / 8) held ∧
      broker.unread = l.incoming.take (min k c.broker.storage.receiveCap) ∧
      broker.deadlineMs = c.broker.deadlineMs := by
  obtain ⟨broker, hask, htaken, hunread, htime⟩ := h.broker.ask (k := k) (l := l) ht
  refine ⟨broker, ?_, htaken, hunread, htime⟩
  rw [LiveClient.step_receiving _ _ _ hp, bulkStep, if_pos he, hask]

variable (he : ¬ c.broker.receiveLength ≤ c.broker.receiveOffset)

include he

theorem LiveClient.Taking.gather {σ : Type} (ops : BrokerOps σ) (q : Qcbor δ) (hash : HashOps η)
    (hz : 0#8 ∉ c.broker.unread) (w : σ) :
    ∃ broker, c.step ops q hash w = ({ c with broker }, w) ∧
      broker.Taken plan image r (r / 8) (held ++ c.broker.unread) ∧ broker.unread = [] ∧
      broker.deadlineMs = c.broker.deadlineMs := by
  obtain ⟨broker, hturn, htaken, hunread, htime⟩ := h.broker.gather q hz
  refine ⟨broker, ?_, htaken, hunread, htime⟩
  rw [LiveClient.step_receiving _ _ _ hp, bulkStep, if_neg he, hturn]

/-- **A chunk is taken**, and the window acknowledged when it is full. -/
theorem LiveClient.Taking.deliver (q : Qcbor δ) (hops : hash.Incremental sha256 absorbed)
    (hplan : plan.Carries requestId image.length) (hmax : image.length ≤ recoveryImageMax)
    (htime : now < c.broker.deadlineMs) (hr : r < chunkCount image.length) {t rest : Octets}
    (hu : c.broker.unread = t ++ 0#8 :: rest) (ht : 0#8 ∉ t)
    (hrec : held ++ t = transferRecord requestId image r) : ∃ c',
      c.step (linkOps now k) q hash l = (c',
        { l with
          unsent := l.unsent ++ recordsBetween (ackRecord requestId) (r / 8) ((r + 1) / 8) }) ∧
      c'.Taking absorbed plan digest image (r + 1) [] ∧ c'.phase = .entering ∧
      c'.broker.unread = rest ∧ c'.broker.deadlineMs = c.broker.deadlineMs := by
  obtain ⟨broker, hturn, hunread, hdead, htaken, -⟩ :=
    h.broker.deliver q hplan hmax (Nat.le_of_lt hr) hu ht hrec
  have hstream := h.stream
  rw [hplan.requestId] at hstream
  obtain ⟨stream, haccept, hrecv⟩ := recoveryStreamAccept_chunk hstream hops hmax hr
  rw [← hplan.requestId] at hrecv
  have htype : (transferFrame requestId image.length r).type ≠ messageComplete := by
    rw [transferFrame_data requestId hr]
    decide
  rw [LiveClient.step_receiving _ _ _ hp, bulkStep, if_neg he, hturn]
  simp only [LiveClient.body, if_neg htype, haccept, ackAfter]
  by_cases hack : (r + 1) % 8 = 0
  · -- the eighth chunk of a window
    obtain ⟨broker', hsent, htaken', hunread', hdead'⟩ := (htaken hr).ack (k := k) (l := l) hplan
      hmax (by omega) hr (by rw [hdead]; exact htime)
    rw [show (r + 1) / 8 = r / 8 + 1 by omega, recordsBetween_succ _ (Nat.le_refl _),
      recordsBetween_of_le _ (Nat.le_refl _), List.nil_append]
    simp only [if_pos hack, if_true, hsent]
    refine ⟨_, rfl, ⟨?_, hrecv, ?_, hr⟩, rfl, hunread'.trans hunread, hdead'.trans hdead⟩
    · rw [show (r + 1) / 8 = r / 8 + 1 by omega]
      exact htaken'
    · simp only [h.acks]
      omega
  · rw [show (r + 1) / 8 = r / 8 by omega, recordsBetween_of_le _ (Nat.le_refl _), List.append_nil]
    simp only [if_neg hack, recoveryAckNone, Bool.false_eq_true, if_false]
    refine ⟨_, rfl, ⟨?_, hrecv, ?_, hr⟩, rfl, hunread, hdead⟩
    · rw [show (r + 1) / 8 = r / 8 by omega]
      exact htaken hr
    · simp only [h.acks]
      omega

/-- **COMPLETE ends the transfer.** -/
theorem LiveClient.Taking.finish (q : Qcbor δ) (now : BitVec 64)
    (hops : hash.Incremental sha256 absorbed) (hplan : plan.Carries requestId image.length)
    (hmax : image.length ≤ recoveryImageMax) (hdigest : sha256 image = digest)
    (hr : r = chunkCount image.length) {t rest : Octets} (hu : c.broker.unread = t ++ 0#8 :: rest)
    (ht : 0#8 ∉ t) (hrec : held ++ t = transferRecord requestId image r) : ∃ c',
      c.step (linkOps now k) q hash l = (c', l) ∧ c'.phase = .ended .ok ∧
      c'.stream.complete = true ∧ c'.stream.pages = image ∧ c'.acks = r / 8 ∧
      c'.broker.unread = [] := by
  obtain ⟨broker, hturn, -, -, -, hlast⟩ :=
    h.broker.deliver q hplan hmax (Nat.le_of_eq hr) hu ht hrec
  obtain ⟨hlive, hcomplete⟩ := hlast hr
  obtain ⟨broker', hfin, hunread⟩ := bulkFinish_link now k l hlive hcomplete
  have hstream := h.stream
  rw [hplan.requestId, hr] at hstream
  obtain ⟨stream, hdone, hc, -, hpages⟩ := recoveryStreamComplete_image hops hstream hmax hdigest
  rw [LiveClient.step_receiving _ _ _ hp, bulkStep, if_neg he, hturn]
  simp only [LiveClient.body, if_pos (transferFrame_complete requestId (Nat.le_of_eq hr.symm))]
  rw [hr, chunk_eq_nil (Nat.le_refl _), hdone]
  simp only [hfin]
  exact ⟨_, rfl, rfl, hc, hpages, by rw [← hr]; exact h.acks, hunread⟩

end Taking

end Pbns
