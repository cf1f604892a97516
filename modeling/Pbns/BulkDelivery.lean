/-
What a bulk session delivers does not depend on how its octets arrive.

`Playback` is a transport that hands out a given list of arrivals, so that running a
session against every `Playback` is running it against every way of cutting the
peer's octets.  `deliveries` is the list the session owes the caller, computed from
the octets alone.
-/
import Pbns.BulkHistory

namespace Pbns

open Octets Guard

/-! ### The transport -/

/-- The future of a transport: what each receive will see (`none`: nothing yet), how
each send will end, and the number of clock readings so far. -/
structure Playback where
  arrivals : List (Option Octets)
  sends : List Status
  ticks : ℕ

/-- Everything that will still arrive. -/
def Playback.bytes (w : Playback) : Octets := w.arrivals.flatMap (·.getD [])

def playbackOps (clock : ℕ → BitVec 64) (closing : Status) : BrokerOps Playback where
  monotonicMs w := (.ok, clock w.ticks, { w with ticks := w.ticks + 1 })
  openTransport w := (.ok, w)
  closeTransport w := (closing, w)
  send _ _ w :=
    match w.sends with
    | [] => (.ok, w)
    | status :: sends => (status, { w with sends })
  receive _ _ w :=
    match w.arrivals with
    | [] => (.errWouldBlock, [], w)
    | none :: arrivals => (.errWouldBlock, [], { w with arrivals })
    | some chunk :: arrivals => (.ok, chunk, { w with arrivals })
  limits w := (.ok, defaultLimits, w)

/-- Every arrival is something, and fits the receive buffer. -/
def Playback.Fits (w : Playback) (cap : ℕ) : Prop :=
  ∀ chunk, some chunk ∈ w.arrivals → chunk ≠ [] ∧ chunk.length ≤ cap

/-! ### What a session owes -/

/-- The responses due from the given records, after `sequence` frames with `total`
octets of data. -/
def deliveries (plan : BulkPlan) : BitVec 32 → ℕ → List Octets → List Response
  | _, _, [] => []
  | sequence, total, record :: rest =>
    match bulkExpects plan sequence total record with
    | none => []
    | some r =>
      if r.frame.type = messageComplete then [r]
      else r :: deliveries plan (sequence + 1#32) (total + r.payload.length) rest

theorem length_deliveries_le (plan : BulkPlan) (sequence : BitVec 32) (total : ℕ)
    (rs : List Octets) : (deliveries plan sequence total rs).length ≤ rs.length := by
  induction rs generalizing sequence total with
  | nil => simp [deliveries]
  | cons r rs ih =>
    rw [deliveries]
    split
    · simp
    · split_ifs
      · simp
      · simpa using ih _ _

/-! ### Inside a receive -/

/-- What a turn of the loop leaves alone unless it ends the call. -/
structure Broker.SameSession (b b' : Broker) : Prop where
  stream : b'.stream = b.stream
  received : b'.bulkReceivedDataSize = b.bulkReceivedDataSize
  acks : b'.bulkNextAckSequence = b.bulkNextAckSequence
  deadline : b'.deadlineMs = b.deadlineMs
  receiveCap : b'.storage.receiveCap = b.storage.receiveCap

/-- The session waits for a record: `pending` is all of the record seen so far and
everything still to come. -/
structure Reading (plan : BulkPlan) (clock : ℕ → BitVec 64) (b : Broker) (w : Playback)
    (pending : Octets) : Prop where
  live : BulkLive plan b
  notComplete : b.stream.complete = false
  inBuffer : b.receiveLength ≤ b.receiveData.length
  fits : w.Fits b.storage.receiveCap
  inTime : ∀ n, clock n < b.deadlineMs
  held : ∃ held, 0#8 ∉ held ∧ Holding b.storage.encoded b.reader held ∧
    held ++ (b.unread ++ w.bytes) = pending

/-- Turns a receive may need: two for each arrival and one for octets at hand. -/
def turns (b : Broker) (w : Playback) : ℕ :=
  2 * w.arrivals.length + if b.receiveLength ≤ b.receiveOffset then 0 else 1

section Playback

variable {δ : Type} (q : Qcbor δ) {plan : BulkPlan} {clock : ℕ → BitVec 64} {closing : Status}
  {b : Broker} {w : Playback} {pending : Octets}

theorem remainingTimeout_playback (closing : Status) (b : Broker) (w : Playback) (hd : b.deadlineActive = true)
    (ht : ∀ n, clock n < b.deadlineMs) : ∃ remainingMs,
      remainingTimeout (playbackOps clock closing) b w
        = (.ok remainingMs, { w with ticks := w.ticks + 1 }) := by
  have hlt : ¬ b.deadlineMs ≤ clock w.ticks := by simpa using ht w.ticks
  simp only [remainingTimeout, hd, playbackOps, if_neg hlt]
  exact ⟨_, rfl⟩

/-- Asking the transport moves octets, and changes nothing else. -/
theorem bulkAsk_playback (closing : Status) (h : Reading plan clock b w pending)
    (he : b.receiveLength ≤ b.receiveOffset) : ∃ b' w',
      bulkAsk (playbackOps clock closing) b w = (none, b', w') ∧ Reading plan clock b' w' pending ∧
        b.SameSession b' ∧ (w.arrivals ≠ [] → turns b' w' < turns b w) := by
  obtain ⟨remainingMs, hrt⟩ := remainingTimeout_playback closing b.drained w
    h.live.deadlineActive h.inTime
  obtain ⟨held, hz, hheld, hpending⟩ := h.held
  rw [Broker.unread_of_drained he, List.nil_append] at hpending
  rw [bulkAsk, hrt]
  rcases hw : w.arrivals with _ | ⟨_ | chunk, arrivals⟩
  · -- nothing will ever come
    refine ⟨b.drained, { w with ticks := w.ticks + 1 }, ?_, ?_, ⟨rfl, rfl, rfl, rfl, rfl⟩, ?_⟩
    · simp [playbackOps, hw, bulkAwait]
    · exact ⟨h.live.buffered _ _ _, h.notComplete, Nat.zero_le _, h.fits, h.inTime,
        held, hz, hheld, hpending⟩
    · intro hne
      exact absurd rfl hne
  · -- nothing yet
    refine ⟨b.drained, { w with ticks := w.ticks + 1, arrivals }, ?_, ?_,
      ⟨rfl, rfl, rfl, rfl, rfl⟩, ?_⟩
    · simp [playbackOps, bulkAwait]
    · refine ⟨h.live.buffered _ _ _, h.notComplete, Nat.zero_le _, ?_, h.inTime,
        held, hz, hheld, ?_⟩
      · intro chunk hmem
        exact h.fits chunk (by rw [hw]; exact List.mem_cons_of_mem _ hmem)
      · rw [← hpending]
        simp [Playback.bytes, hw, Broker.unread, Broker.drained]
    · intro _
      simp [turns, hw, Broker.drained]
      omega
  · -- octets
    obtain ⟨hne, hfit⟩ := h.fits chunk (by rw [hw]; exact List.mem_cons_self)
    have hpos : chunk.length ≠ 0 := fun h0 => hne (List.length_eq_zero_iff.mp h0)
    refine ⟨{ b.drained with receiveData := chunk, receiveLength := chunk.length },
      { w with ticks := w.ticks + 1, arrivals }, ?_, ?_, ⟨rfl, rfl, rfl, rfl, rfl⟩, ?_⟩
    · simp [playbackOps, bulkAwait, hne, Nat.not_lt.mpr hfit, Broker.drained]
    · refine ⟨h.live.buffered _ _ _, h.notComplete, Nat.le_refl _, ?_, h.inTime,
        held, hz, hheld, ?_⟩
      · intro c hmem
        exact h.fits c (by rw [hw]; exact List.mem_cons_of_mem _ hmem)
      · rw [← hpending]
        simp [Playback.bytes, hw, Broker.unread, Broker.drained]
    · intro _
      simp [turns, hw, Broker.drained, hpos]
      omega

/-- What a receive does with the next record `t` of the stream, `rest` being the
stream behind it. -/
def Outcome (plan : BulkPlan) (clock : ℕ → BitVec 64) (b : Broker) (t rest : Octets)
    (result : Except Status Response) (b' : Broker) (w' : Playback) : Prop :=
  match bulkExpects plan b.stream.nextSequence b.bulkReceivedDataSize t with
  | some r => result = .ok r ∧ BulkLive plan b' ∧ Holding b'.storage.encoded b'.reader [] ∧
      b'.receiveLength ≤ b'.receiveData.length ∧ w'.Fits b'.storage.receiveCap ∧
      (∀ n, clock n < b'.deadlineMs) ∧ b'.unread ++ w'.bytes = rest ∧
      b'.stream = b.stream.advance r.frame r.payload ∧
      b'.bulkReceivedDataSize = b.bulkReceivedDataSize + r.payload.length
  | none => ∃ status, status ≠ .ok ∧ result = .error status ∧ b'.bulkFailed = true

theorem bulkTurn_playback (h : Reading plan clock b w pending)
    (he : ¬ b.receiveLength ≤ b.receiveOffset) :
    (∃ b', bulkTurn q b = (none, b') ∧ Reading plan clock b' w pending ∧ b.SameSession b' ∧
      turns b' w < turns b w) ∨
    ∃ t rest result b', 0#8 ∉ t ∧ pending = t ++ 0#8 :: rest ∧
      bulkTurn q b = (some result, b') ∧ Outcome plan clock b t rest result b' w := by
  obtain ⟨held, hz, hheld, hpending⟩ := h.held
  by_cases hu : 0#8 ∈ b.unread
  · -- the delimiter is at hand
    right
    obtain ⟨t, rest, hsplit, ht⟩ := List.eq_append_cons_of_mem hu
    refine ⟨held ++ t, rest ++ w.bytes, ?_⟩
    have hturn := bulkTurn_close q h.live h.notComplete hheld ht hsplit
    have hpend : pending = held ++ t ++ 0#8 :: (rest ++ w.bytes) := by
      rw [← hpending, hsplit]
      simp
    unfold Outcome
    rcases hexp : bulkExpects plan b.stream.nextSequence b.bulkReceivedDataSize (held ++ t) with
      _ | r <;> rw [hexp] at hturn
    · obtain ⟨status, b', hne, hstep, hfail⟩ := hturn
      exact ⟨.error status, b', by simp [hz, ht], hpend, hstep, status, hne, rfl, hfail⟩
    · obtain ⟨reader, storage, hlen, hinit, hstep⟩ := hturn
      have hlive := h.live.took reader hlen (t.length + 1)
      have hrec := frameExpects_of_bulkExpects hexp
      refine ⟨.ok r, _, by simp [hz, ht], hpend, hstep, rfl, (hlive.delivered hrec).1,
        holding_reset hinit _, h.inBuffer, h.fits, h.inTime, ?_, rfl, rfl⟩
      change (b.took reader storage (t.length + 1)).unread ++ w.bytes = _
      rw [Broker.unread_took, hsplit, List.drop_append, List.drop_of_length_le (by omega)]
      simp
  · -- the octets at hand are taken whole
    left
    obtain ⟨reader, storage, hstep, hlen, hhold⟩ := bulkTurn_open q hheld hu
    have hunread : b.unread.length = b.receiveLength - b.receiveOffset := by
      rw [Broker.unread, List.length_drop, List.length_take, Nat.min_eq_left h.inBuffer]
    refine ⟨_, hstep, ⟨h.live.took reader hlen _, h.notComplete, h.inBuffer, h.fits, h.inTime,
      held ++ b.unread, by simp [hz, hu], hhold, ?_⟩, ⟨rfl, rfl, rfl, rfl, rfl⟩, ?_⟩
    · rw [Broker.unread_took, List.drop_length, ← hpending]
      simp
    · simp only [turns, Broker.took, hunread]
      rw [if_pos (by omega), if_neg he]
      omega

/-- **One turn of a receive**: it goes on with the same record, or ends with what is
due for it. -/
theorem bulkStep_playback (closing : Status) (h : Reading plan clock b w pending) :
    (∃ b' w', bulkStep (playbackOps clock closing) q b w = (none, b', w') ∧
      Reading plan clock b' w' pending ∧ b.SameSession b' ∧
      (turns b w ≠ 0 → turns b' w' < turns b w)) ∨
    ∃ t rest result b', 0#8 ∉ t ∧ pending = t ++ 0#8 :: rest ∧
      bulkStep (playbackOps clock closing) q b w = (some result, b', w) ∧
      Outcome plan clock b t rest result b' w := by
  by_cases he : b.receiveLength ≤ b.receiveOffset
  · left
    obtain ⟨b', w', hstep, hread, hsame, hturns⟩ := bulkAsk_playback closing h he
    refine ⟨b', w', by rw [bulkStep, if_pos he, hstep], hread, hsame, fun hne => hturns ?_⟩
    rintro hnil
    exact hne (by simp [turns, hnil, he])
  · rcases bulkTurn_playback q h he with ⟨b', hstep, hread, hsame, hturns⟩ |
      ⟨t, rest, result, b', ht, hpend, hstep, hout⟩
    · exact .inl ⟨b', w, by rw [bulkStep, if_neg he, hstep], hread, hsame, fun _ => hturns⟩
    · exact .inr ⟨t, rest, result, b', ht, hpend, by rw [bulkStep, if_neg he, hstep], hout⟩

theorem Outcome.of_same {b₁ b' : Broker} {t rest : Octets} {result : Except Status Response}
    {w' : Playback} (hs : b.SameSession b₁) (h : Outcome plan clock b₁ t rest result b' w') :
    Outcome plan clock b t rest result b' w' := by
  unfold Outcome at h ⊢
  rwa [hs.stream, hs.received] at h

/-- **A receive that returns** has dealt with the next record of the stream. -/
theorem bulkReceiveLoop_playback {fuel : ℕ} {result : Except Status Response} {b' : Broker}
    {w' : Playback} (h : Reading plan clock b w pending)
    (hrun : bulkReceiveLoop (playbackOps clock closing) q fuel b w = some (result, b', w')) :
    ∃ t rest, 0#8 ∉ t ∧ pending = t ++ 0#8 :: rest ∧ Outcome plan clock b t rest result b' w' := by
  induction fuel generalizing b w with
  | zero => exact absurd hrun (by simp [bulkReceiveLoop])
  | succ fuel ih =>
    rw [bulkReceiveLoop] at hrun
    rcases bulkStep_playback q closing h with ⟨b₁, w₁, hstep, hread, hsame, -⟩ |
      ⟨t, rest, result₁, b₁, ht, hpend, hstep, hout⟩
    · rw [hstep] at hrun
      obtain ⟨t, rest, ht, hpend, hout⟩ := ih hread hrun
      exact ⟨t, rest, ht, hpend, hout.of_same hsame⟩
    · rw [hstep] at hrun
      cases hrun
      exact ⟨t, rest, ht, hpend, hout⟩

/-- **A receive returns** once the delimiter of the record is among what arrives. -/
theorem bulkReceiveLoop_returns {fuel : ℕ} (h : Reading plan clock b w pending)
    (hz : 0#8 ∈ pending) (hfuel : turns b w < fuel) :
    bulkReceiveLoop (playbackOps clock closing) q fuel b w ≠ none := by
  induction fuel generalizing b w with
  | zero => omega
  | succ fuel ih =>
    rw [bulkReceiveLoop]
    rcases bulkStep_playback q closing h with ⟨b₁, w₁, hstep, hread, hsame, hturns⟩ |
      ⟨t, rest, result₁, b₁, ht, hpend, hstep, hout⟩
    · rw [hstep]
      refine ih hread (Nat.lt_of_lt_of_le (hturns ?_) (by omega))
      -- with no turn left there is nothing at hand and nothing to come
      intro hzero
      obtain ⟨held, hnz, -, hpending⟩ := h.held
      have hempty : w.arrivals = [] ∧ b.receiveLength ≤ b.receiveOffset := by
        unfold turns at hzero
        split at hzero
        · exact ⟨List.length_eq_zero_iff.mp (by omega), by assumption⟩
        · omega
      rw [Broker.unread_of_drained hempty.2, Playback.bytes, hempty.1] at hpending
      simp only [List.flatMap_nil, List.append_nil] at hpending
      exact hnz (hpending ▸ hz)
    · rw [hstep]
      simp

end Playback

/-! ### Runs of calls -/

inductive BulkCall
  | receive
  | ack (nextDataSequence window : BitVec 32)
  | finish

inductive BulkReturn
  | receive (result : Except Status Response)
  | ack (status : Status)
  | finish (status : Status)

/-- The call returned `PBNS_OK`. -/
def BulkReturn.Ok : BulkReturn → Prop
  | .receive result => ∃ r, result = .ok r
  | .ack status => status = .ok
  | .finish status => status = .ok

def BulkReturn.response : BulkReturn → Option Response
  | .receive (.ok r) => some r
  | _ => none

/-- The responses a run returned, in order. -/
def received (returns : List BulkReturn) : List Response := returns.filterMap BulkReturn.response

section Runs

variable {σ δ : Type} (ops : BrokerOps σ) (q : Qcbor δ) (fuel : ℕ)

def bulkCall : BulkCall → Broker → σ → Option (BulkReturn × Broker × σ)
  | .receive, b, w => (bulkReceive ops q fuel b w).map fun (result, b, w) => (.receive result, b, w)
  | .ack next window, b, w =>
    let (status, b, w) := bulkAck ops next window b w
    some (.ack status, b, w)
  | .finish, b, w =>
    let (status, b, w) := bulkFinish ops b w
    some (.finish status, b, w)

/-- A sequence of calls, up to one that does not return. -/
def bulkCalls : List BulkCall → Broker → σ → List BulkReturn × Broker × σ
  | [], b, w => ([], b, w)
  | call :: calls, b, w =>
    match bulkCall ops q fuel call b w with
    | none => ([], b, w)
    | some (ret, b, w) =>
      let (returns, b, w) := bulkCalls calls b w
      (ret :: returns, b, w)

end Runs

/-- A healthy session that has returned `done` of what the stream `all` makes due. -/
structure Alive (plan : BulkPlan) (clock : ℕ → BitVec 64) (all : Octets) (b : Broker) (w : Playback)
    (done : List Response) : Prop where
  live : BulkLive plan b
  reader : Holding b.storage.encoded b.reader []
  inBuffer : b.receiveLength ≤ b.receiveData.length
  fits : w.Fits b.storage.receiveCap
  inTime : ∀ n, clock n < b.deadlineMs
  owed : deliveries plan 0#32 0 (records all) = done ++
    if b.stream.complete then []
    else deliveries plan b.stream.nextSequence b.bulkReceivedDataSize (records (b.unread ++ w.bytes))
  consumed : (records all).length = done.length + (records (b.unread ++ w.bytes)).length
  total : b.bulkReceivedDataSize = (done.map (·.payload.length)).sum
  ended : b.stream.complete = true →
    ∃ r, done.getLast? = some r ∧ r.frame.type = messageComplete

/-- `n` records have gone from what is ahead of the session. -/
structure RecordsPassed (n : ℕ) (b : Broker) (w : Playback) (b' : Broker) (w' : Playback) : Prop where
  sequence : b'.stream.nextSequence = b.stream.nextSequence + BitVec.ofNat 32 n
  ahead : records (b'.unread ++ w'.bytes) = (records (b.unread ++ w.bytes)).drop n

theorem RecordsPassed.none (b : Broker) (w : Playback) : RecordsPassed 0 b w b w := ⟨by simp, rfl⟩

section Sessions

variable {δ : Type} (q : Qcbor δ) {plan : BulkPlan} {clock : ℕ → BitVec 64} {closing : Status}
  {all : Octets} {b b' : Broker} {w w' : Playback} {done : List Response} {fuel : ℕ}

theorem bulkClosed_of_failed (h : b.bulkFailed = true) : b.bulkClosed = true := by
  simp [Broker.bulkClosed, h]

theorem Alive.reading (h : Alive plan clock all b w done) (hc : b.stream.complete = false) :
    Reading plan clock b w (b.unread ++ w.bytes) :=
  ⟨h.live, hc, h.inBuffer, h.fits, h.inTime, [], by simp, h.reader, by simp⟩

variable (h : Alive plan clock all b w done)

include h

/-- A receive in a healthy session. -/
theorem Alive.receive {result : Except Status Response} (hc : b.stream.complete = false)
    (hrun : bulkReceive (playbackOps clock closing) q fuel b w = some (result, b', w')) :
    (∃ r, result = .ok r ∧ Alive plan clock all b' w' (done ++ [r]) ∧ RecordsPassed 1 b w b' w') ∨
      ∃ status, status ≠ .ok ∧ result = .error status ∧ b'.bulkClosed = true ∧
        deliveries plan 0#32 0 (records all) = done ∧ done.length < (records all).length := by
  rw [bulkReceive, if_neg (by simp [h.live.not_closed, hc])] at hrun
  obtain ⟨t, rest, ht, hpend, hout⟩ := bulkReceiveLoop_playback q (h.reading hc) hrun
  have howed := h.owed
  have hcons := h.consumed
  rw [hpend, records_close ht] at howed hcons
  rw [hc, if_neg (by simp), deliveries] at howed
  rw [List.length_cons] at hcons
  unfold Outcome at hout
  rcases hexp : bulkExpects plan b.stream.nextSequence b.bulkReceivedDataSize t with _ | r <;>
    rw [hexp] at hout howed
  · obtain ⟨status, hne, hres, hfail⟩ := hout
    simp only [List.append_nil] at howed
    exact .inr ⟨status, hne, hres, bulkClosed_of_failed hfail, howed, by omega⟩
  · obtain ⟨hres, hlive, hhold, hbuf, hfits, htime, hrest, hstream, hrecv⟩ := hout
    have hrec := frameExpects_of_bulkExpects hexp
    have hcomplete : b'.stream.complete = decide (r.frame.type = messageComplete) := by
      rw [hstream]
      exact (h.live.delivered hrec).2
    refine .inl ⟨r, hres, ⟨hlive, hhold, hbuf, hfits, htime, ?_, ?_, ?_, ?_⟩, ?_, ?_⟩
    · rw [howed, hcomplete, hrest, hrecv, hstream]
      by_cases ht : r.frame.type = messageComplete
      · simp [ht]
      · simp [ht, StreamState.advance]
    · rw [hcons, hrest, List.length_append, List.length_singleton]
      omega
    · rw [hrecv, h.total]
      simp
    · intro hc'
      rw [hcomplete] at hc'
      exact ⟨r, by simp, of_decide_eq_true hc'⟩
    · rw [hstream]
      rfl
    · rw [hrest, hpend, records_close ht]
      rfl

/-- A receive returns while the stream holds another record. -/
theorem Alive.receive_returns (hc : b.stream.complete = false)
    (hmore : done.length < (records all).length) (hfuel : turns b w < fuel) :
    bulkReceive (playbackOps clock closing) q fuel b w ≠ none := by
  rw [bulkReceive, if_neg (by simp [h.live.not_closed, hc])]
  refine bulkReceiveLoop_returns q (h.reading hc) ?_ hfuel
  by_contra hz
  have := h.consumed
  rw [records_open hz] at this
  simp only [List.length_nil] at this
  omega

/-- Nothing is returned for an unfinished record. -/
theorem Alive.receive_blocks (hc : b.stream.complete = false)
    (hmore : done.length = (records all).length) :
    bulkReceive (playbackOps clock closing) q fuel b w = none := by
  rcases hrun : bulkReceive (playbackOps clock closing) q fuel b w with _ | ⟨result, b', w'⟩
  · rfl
  · rw [bulkReceive, if_neg (by simp [h.live.not_closed, hc])] at hrun
    obtain ⟨t, rest, ht, hpend, -⟩ := bulkReceiveLoop_playback q (h.reading hc) hrun
    have := h.consumed
    rw [hpend, records_close ht, List.length_cons] at this
    omega

/-- The arguments an acknowledgement needs. -/
def AckDue (b : Broker) (next window : BitVec 32) : Prop :=
  next ≠ 0#32 ∧ next = b.stream.nextSequence ∧
    next.toNat = (b.bulkNextAckSequence.toNat + 1) * bulkWindow.toNat ∧ window = bulkWindow ∧
    b.bulkNextAckSequence ≠ uint32Max

omit h in
/-- Sending touches the shared memory and the transport only. -/
theorem sendFrame_playback {frame : Frame} {payload : Octets} {remainingMs : BitVec 32}
    {status : Status} (hrun : sendFrame (playbackOps clock closing) frame payload remainingMs b w
      = (status, b', w')) : ∃ encoded rawScratch sends,
        encoded.length = b.storage.encoded.length ∧
        b' = { b with storage.encoded := encoded, rawScratch } ∧ w' = { w with sends } := by
  obtain ⟨encoded, rawScratch, hlen, rfl, ⟨-, -, rfl⟩ | ⟨-, hsend⟩⟩ := sendFrame_cases hrun
  · exact ⟨encoded, rawScratch, _, hlen, rfl, rfl⟩
  · simp only [playbackOps] at hsend
    split at hsend <;> cases hsend
    · exact ⟨encoded, rawScratch, _, hlen, rfl, rfl⟩
    · exact ⟨encoded, rawScratch, _, hlen, rfl, rfl⟩

/-- An acknowledgement goes out, ends the session, or is refused without effect.
Either way nothing of a record is overwritten: between calls the reader holds none. -/
theorem Alive.ack {next window : BitVec 32} {status : Status}
    (hrun : bulkAck (playbackOps clock closing) next window b w = (status, b', w')) :
    (status = .ok ∧ Alive plan clock all b' w' done ∧ RecordsPassed 0 b w b' w') ∨
      status ≠ .ok ∧ (b'.bulkClosed = true ∨
        b' = b ∧ w' = w ∧ (b.stream.complete = true ∨ ¬ AckDue b next window)) := by
  rw [bulkAck] at hrun
  split_ifs at hrun with hc hargs
  · cases hrun
    rw [h.live.not_closed] at hc
    exact .inr ⟨by decide, .inr ⟨rfl, rfl, .inl (by simpa using hc)⟩⟩
  · cases hrun
    exact .inr ⟨by decide, .inr ⟨rfl, rfl, .inr fun hdue => by unfold AckDue at hdue; tauto⟩⟩
  · obtain ⟨remainingMs, hrt⟩ := remainingTimeout_playback closing b w h.live.deadlineActive h.inTime
    rw [hrt] at hrun
    simp only at hrun
    split at hrun
    · rename_i hsend
      obtain ⟨encoded, rawScratch, sends, hlen, rfl, rfl⟩ := sendFrame_playback hsend
      cases hrun
      exact .inl ⟨rfl, { h with live := h.live.reencoded hlen _ _, reader := h.reader.of_nil _ },
        by simp, rfl⟩
    · rename_i hne _
      cases hrun
      exact .inr ⟨hne, .inl (bulkClosed_of_failed rfl)⟩

/-- A finish ends the session when everything is there, and is refused before. -/
theorem Alive.finish {status : Status}
    (hrun : bulkFinish (playbackOps clock closing) b w = (status, b', w')) :
    (b'.bulkClosed = true ∧ b.stream.complete = true) ∨
      status ≠ .ok ∧ b' = b ∧ w' = w ∧ b.stream.complete = false := by
  rw [bulkFinish] at hrun
  split_ifs at hrun with hc
  · cases hrun
    refine .inr ⟨by decide, rfl, rfl, ?_⟩
    by_contra hcomplete
    rw [Bool.not_eq_false] at hcomplete
    have hexact : b.bulkExactDataSize = plan.exactDataSize :=
      congrArg BulkPlan.exactDataSize h.live.planEq
    have := h.live.completed hcomplete
    rcases hc with hc | hc | hc
    · rw [h.live.not_closed] at hc
      cases hc
    · exact hc hcomplete
    · exact hc (by rw [hexact, this])
  · rw [not_or, not_or, not_not] at hc
    refine .inl ⟨?_, hc.2.1⟩
    obtain rfl : (finishSession (playbackOps clock closing) false b w).2.1 = b' := by rw [hrun]
    simp [finishSession, wipeRequestStorage, Broker.bulkClosed]

/-- The calls a healthy session refuses without effect: nothing more is taken behind
COMPLETE, nothing is acknowledged out of turn, nothing is finished early. -/
def Refused (b : Broker) : BulkCall → Prop
  | .receive => b.stream.complete = true
  | .ack next window => b.stream.complete = true ∨ ¬ AckDue b next window
  | .finish => b.stream.complete = false

/-- One call in a healthy session. -/
theorem Alive.call {call : BulkCall} {ret : BulkReturn}
    (hrun : bulkCall (playbackOps clock closing) q fuel call b w = some (ret, b', w')) :
    (Alive plan clock all b' w' (done ++ ret.response.toList) ∧
        RecordsPassed ret.response.toList.length b w b' w' ∨
      b'.bulkClosed = true ∧ ret.response = none) ∧
    (¬ ret.Ok → b'.bulkClosed = true ∨ b' = b ∧ w' = w ∧ Refused b call) := by
  have hsame : Alive plan clock all b w (done ++ []) ∧ RecordsPassed 0 b w b w :=
    ⟨by simpa using h, .none b w⟩
  rcases call with _ | ⟨next, window⟩ | _
  · rw [bulkCall, Option.map_eq_some_iff] at hrun
    obtain ⟨⟨result, b₁, w₁⟩, hrun, heq⟩ := hrun
    cases heq
    by_cases hc : b.stream.complete = true
    · rw [bulkReceive, if_pos (.inr hc)] at hrun
      cases hrun
      exact ⟨.inl hsame, fun _ => .inr ⟨rfl, rfl, hc⟩⟩
    · rcases h.receive q (by simpa using hc) hrun with ⟨r, rfl, halive⟩ |
        ⟨status, -, rfl, hclosed, -⟩
      · exact ⟨.inl halive, fun hnot => absurd ⟨r, rfl⟩ hnot⟩
      · exact ⟨.inr ⟨hclosed, rfl⟩, fun _ => .inl hclosed⟩
  · rw [bulkCall] at hrun
    rcases hack : bulkAck (playbackOps clock closing) next window b w with ⟨status, b₁, w₁⟩
    rw [hack] at hrun
    cases hrun
    rcases h.ack hack with ⟨hok, halive, hpassed⟩ | ⟨hne, hclosed | ⟨rfl, rfl, hrefused⟩⟩
    · exact ⟨.inl ⟨by simpa [BulkReturn.response] using halive, hpassed⟩, fun hnot => absurd hok hnot⟩
    · exact ⟨.inr ⟨hclosed, rfl⟩, fun _ => .inl hclosed⟩
    · exact ⟨.inl hsame, fun _ => .inr ⟨rfl, rfl, hrefused⟩⟩
  · rw [bulkCall] at hrun
    rcases hfin : bulkFinish (playbackOps clock closing) b w with ⟨status, b₁, w₁⟩
    rw [hfin] at hrun
    cases hrun
    rcases h.finish hfin with ⟨hclosed, -⟩ | ⟨-, rfl, rfl, hrefused⟩
    · exact ⟨.inr ⟨hclosed, rfl⟩, fun _ => .inl hclosed⟩
    · exact ⟨.inl hsame, fun _ => .inr ⟨rfl, rfl, hrefused⟩⟩

omit h in
/-- A closed session refuses everything, for good. -/
theorem bulkCall_closed {σ : Type} (ops : BrokerOps σ) (fuel : ℕ) (call : BulkCall)
    (h : b.bulkClosed = true) (w : σ) :
    ∃ ret, bulkCall ops q fuel call b w = some (ret, b, w) ∧ ¬ ret.Ok ∧ ret.response = none := by
  rcases call with _ | ⟨next, window⟩ | _
  · exact ⟨.receive (.error .errState), by simp [bulkCall, bulkReceive, h], by simp [BulkReturn.Ok],
      rfl⟩
  · exact ⟨.ack .errState, by simp [bulkCall, bulkAck, h], by simp [BulkReturn.Ok], rfl⟩
  · exact ⟨.finish .errState, by simp [bulkCall, bulkFinish, h], by simp [BulkReturn.Ok], rfl⟩

omit h in
theorem bulkCalls_closed {σ : Type} (ops : BrokerOps σ) {calls : List BulkCall}
    {returns : List BulkReturn} {w w' : σ} (h : b.bulkClosed = true)
    (hrun : bulkCalls ops q fuel calls b w = (returns, b', w')) :
    b' = b ∧ received returns = [] := by
  induction calls generalizing returns b' w' with
  | nil =>
    simp only [bulkCalls, Prod.mk.injEq] at hrun
    obtain ⟨rfl, rfl, -⟩ := hrun
    exact ⟨rfl, rfl⟩
  | cons call calls ih =>
    obtain ⟨ret, hcall, -, hnone⟩ := bulkCall_closed q ops fuel call h w
    rw [bulkCalls, hcall] at hrun
    rcases hrest : bulkCalls ops q fuel calls b w with ⟨returns₁, b₁, w₁⟩
    simp only [hrest, Prod.mk.injEq] at hrun
    obtain ⟨rfl, rfl, -⟩ := hrun
    obtain ⟨rfl, hnil⟩ := ih hrest
    refine ⟨rfl, ?_⟩
    unfold received at hnil ⊢
    rw [List.filterMap_cons_none hnone, hnil]

omit h in
/-- **A run of calls** keeps what every call keeps that does not close the session. -/
theorem bulkCalls_rule {σ : Type} (ops : BrokerOps σ) {I : List Response → Broker → σ → Prop}
    (hcall : ∀ {call done b w ret b' w'}, I done b w →
      bulkCall ops q fuel call b w = some (ret, b', w') →
        I (done ++ ret.response.toList) b' w' ∨ b'.bulkClosed = true ∧ ret.response = none)
    {calls : List BulkCall} {returns : List BulkReturn} {w w' : σ} (h : I done b w)
    (hrun : bulkCalls ops q fuel calls b w = (returns, b', w')) :
    I (done ++ received returns) b' w' ∨
      b'.bulkClosed = true ∧ ∃ b₁ w₁, I (done ++ received returns) b₁ w₁ := by
  induction calls generalizing b w done returns with
  | nil =>
    cases hrun
    exact .inl (by simpa [received] using h)
  | cons call calls ih =>
    rw [bulkCalls] at hrun
    rcases hfirst : bulkCall ops q fuel call b w with _ | ⟨ret, b₁, w₁⟩ <;> rw [hfirst] at hrun
    · cases hrun
      exact .inl (by simpa [received] using h)
    rcases hrest : bulkCalls ops q fuel calls b₁ w₁ with ⟨returns₁, b₂, w₂⟩
    simp only [hrest, Prod.mk.injEq] at hrun
    obtain ⟨rfl, rfl, rfl⟩ := hrun
    have hsplit : received (ret :: returns₁) = ret.response.toList ++ received returns₁ := by
      rcases hr : ret.response <;> simp [received, hr]
    rw [hsplit, ← List.append_assoc]
    rcases hcall h hfirst with hkept | ⟨hclosed, hnone⟩
    · exact ih hkept hrest
    · -- a session that is closed on the way stays closed
      obtain ⟨rfl, hnil⟩ := bulkCalls_closed q ops hclosed hrest
      exact .inr ⟨hclosed, b, w, by simpa [hnone, hnil] using h⟩

/-- So a session stays healthy or is closed; what it returned is the beginning of what
is due. -/
theorem Alive.calls {calls : List BulkCall} {returns : List BulkReturn}
    (hrun : bulkCalls (playbackOps clock closing) q fuel calls b w = (returns, b', w')) :
    Alive plan clock all b' w' (done ++ received returns) ∨
      b'.bulkClosed = true ∧
        done ++ received returns <+: deliveries plan 0#32 0 (records all) := by
  rcases bulkCalls_rule (I := fun done b w => Alive plan clock all b w done) q _
    (fun h hcall => (h.call q hcall).1.imp_left And.left) h hrun with
    halive | ⟨hclosed, b₁, w₁, halive⟩
  · exact .inl halive
  · refine .inr ⟨hclosed, ?_⟩
    rw [halive.owed]
    exact List.prefix_append _ _

omit h in
/-- A fresh session has returned nothing yet. -/
theorem BulkFresh.alive {service : ServiceId} {requestId : RequestId} {exactDataSize : ℕ}
    (h : BulkFresh service requestId exactDataSize b) (hfits : w.Fits b.storage.receiveCap)
    (htime : ∀ n, clock n < b.deadlineMs) : Alive b.plan clock w.bytes b w [] := by
  refine ⟨h.live, h.reader, h.inBuffer, hfits, htime, ?_, ?_, h.received, ?_⟩
  · simp [h.notComplete, h.sequence, h.received, h.unread]
  · simp [h.unread]
  · intro hc
    rw [h.notComplete] at hc
    cases hc

/-- The next receive of a healthy session, for the stream as a whole. -/
theorem Alive.next (hc : b.stream.complete = false) (hfuel : turns b w < fuel) :
    (∀ r, (deliveries plan 0#32 0 (records all))[done.length]? = some r →
      ∃ b' w', bulkReceive (playbackOps clock closing) q fuel b w = some (.ok r, b', w')) ∧
    (done = deliveries plan 0#32 0 (records all) → done.length < (records all).length →
      ∃ status b' w', status ≠ .ok ∧ b'.bulkClosed = true ∧
        bulkReceive (playbackOps clock closing) q fuel b w = some (.error status, b', w')) := by
  have hreturns : done.length < (records all).length → ∃ result b' w',
      bulkReceive (playbackOps clock closing) q fuel b w = some (result, b', w') := by
    intro hmore
    rcases hrun : bulkReceive (playbackOps clock closing) q fuel b w with _ | ⟨result, b', w'⟩
    · exact absurd hrun (h.receive_returns q hc hmore hfuel)
    · exact ⟨result, b', w', rfl⟩
  refine ⟨?_, ?_⟩
  · intro r hr
    have hlt := (List.getElem?_eq_some_iff.mp hr).1
    obtain ⟨result, b', w', hrun⟩ := hreturns
      (Nat.lt_of_lt_of_le hlt (length_deliveries_le plan _ _ _))
    rcases h.receive q hc hrun with ⟨r', rfl, halive, -⟩ | ⟨status, -, rfl, -, hdone, -⟩
    · rw [halive.owed, List.append_assoc, List.getElem?_append_right (Nat.le_refl _),
        Nat.sub_self] at hr
      simp only [List.cons_append, List.getElem?_cons_zero, Option.some.injEq] at hr
      exact ⟨b', w', by rw [hrun, hr]⟩
    · rw [hdone] at hlt
      omega
  · intro hdone hmore
    obtain ⟨result, b', w', hrun⟩ := hreturns hmore
    rcases h.receive q hc hrun with ⟨r', rfl, halive, -⟩ | ⟨status, hne, rfl, hclosed, -⟩
    · have := congrArg List.length halive.owed
      rw [← hdone] at this
      simp only [List.length_append, List.length_singleton] at this
      omega
    · exact ⟨status, b', w', hne, hclosed, hrun⟩

end Sessions

def sampleRequestId : RequestId := List.Vector.replicate 16 1#8

def sampleStorage : BrokerStorage := ⟨List.replicate 64 0#8, 64, 64, 8⟩

def sampleQcbor : Qcbor Unit := ⟨fun _ => (), fun _ => none, fun _ => true⟩

def sampleTransport : BrokerOps Playback := playbackOps (fun _ => 0#64) .ok

/-- A fresh broker asks the recovery service for one octet. -/
def sampleSession : Status × Broker × Playback :=
  bulkBegin sampleTransport serviceRecoveryArtifact sampleRequestId [] 1 1000#32
    (freshBroker sampleStorage) ⟨[], [], 0⟩

def sampleData : Frame := ⟨serviceRecoveryArtifact, messageData, 0#8, sampleRequestId, 0#32⟩

/-- The peer's octets: one DATA record with the given payload. -/
def sampleArrival (payload : Octets) : Playback :=
  ⟨[none, some (stuffed sampleData payload ++ [0#8])], [], 0⟩

def sampleRun : List BulkReturn × Broker × Playback :=
  bulkCalls sampleTransport sampleQcbor 10 [.receive] sampleSession.2.1 (sampleArrival [7#8])

end Pbns
