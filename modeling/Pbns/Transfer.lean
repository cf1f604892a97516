/-
An artifact transfer: the gateway's handler and the client's loop, joined by two
reliable channels.

A step of the `Transfer` is a step of one side, or moves octets: a write puts any
number of pending octets on their way, a read takes any number of them.  `Run n`
counts the steps that move something; a client that finds nothing may ask again any
number of times in between.

The invariant `Joint s r a` says that the handler has given out `s` frames and taken
`a` acknowledgements while the client has taken `r` frames; what is in between is
exactly the records `r, …, s - 1` in one direction and the acknowledgements
`a, …, min r N / 8 - 1` in the other.  Everything else follows from these numbers:

* `Joint.step` — every step keeps the invariant and costs weight;
* `Joint.progress` — only a finished transfer is stuck;
* `recovery_transfer` — the whole run.
-/
import Pbns.BulkDelivery
import Pbns.RecoveryLive

namespace Pbns

open Octets Guard Recovery

structure Transfer (η : Type) where
  handler : Handler
  client : LiveClient η
  link : Link
  toGateway : Octets

section Steps

variable {δ η : Type} (q : Qcbor δ) (hash : HashOps η)

/-- A step of the client at time `now`, with at most `k` octets from the channel. -/
def Transfer.clientStep (now : BitVec 64) (k : ℕ) (t : Transfer η) : Transfer η :=
  { t with
    client := (t.client.step (linkOps now k) q hash t.link).1
    link := (t.client.step (linkOps now k) q hash t.link).2 }

/-- The client has something to do: a call to make, octets at hand, or octets on
their way of which the transport hands out some. -/
def Transfer.ClientMoves (k : ℕ) (t : Transfer η) : Prop :=
  match t.client.phase with
  | .entering => True
  | .receiving => t.client.broker.receiveOffset < t.client.broker.receiveLength ∨
      0 < k ∧ t.link.incoming ≠ []
  | .ended _ => False

inductive Transfer.Step : Transfer η → Transfer η → Prop
  /-- The handler goes through the head of its loop. -/
  | turn {t} (hp : t.handler.phase = .looping) :
    Step t { t with handler := t.handler.turn false false }
  /-- Some octets of a frame are written. -/
  | write {t last} (k : ℕ) (hp : t.handler.phase = .writing last) (hk : 0 < k)
    (hle : k ≤ t.handler.unwritten.length) :
    Step t { t with
      handler := { t.handler with unwritten := t.handler.unwritten.drop k }
      link := { t.link with incoming := t.link.incoming ++ t.handler.unwritten.take k } }
  /-- The write of a frame ends. -/
  | written {t last} (hp : t.handler.phase = .writing last) (hnil : t.handler.unwritten = []) :
    Step t { t with handler := t.handler.written last }
  /-- Octets arrive in the handler's reader. -/
  | read {t} (k : ℕ) (hp : t.handler.phase = .receiving)
    (hmore : Server.readSlice t.handler.stream.bufferSize t.handler.buffered = none) (hk : 0 < k)
    (hle : k ≤ t.toGateway.length)
    (hroom : t.handler.buffered.length + k ≤ t.handler.stream.bufferSize) :
    Step t { t with
      handler := { t.handler with buffered := t.handler.buffered ++ t.toGateway.take k }
      toGateway := t.toGateway.drop k }
  /-- The handler's reader has found a record, or cannot. -/
  | acknowledge {t result} (hp : t.handler.phase = .receiving)
    (hread : Server.readSlice t.handler.stream.bufferSize t.handler.buffered = some result) :
    Step t { t with handler := t.handler.acknowledge result }
  /-- Some octets of an acknowledgement are on their way. -/
  | send {t} (k : ℕ) (hk : 0 < k) (hle : k ≤ t.link.unsent.length) :
    Step t { t with
      link := { t.link with unsent := t.link.unsent.drop k }
      toGateway := t.toGateway ++ t.link.unsent.take k }
  /-- The client moves, in time and not while it is still sending. -/
  | client {t} (now : BitVec 64) (k : ℕ) (hsent : t.link.unsent = [])
    (htime : now < t.client.broker.deadlineMs) (hmoves : t.ClientMoves k) :
    Step t (t.clientStep q hash now k)

/-- The client asks and there is nothing yet. -/
structure Transfer.Polls (now : BitVec 64) (t : Transfer η) : Prop where
  phase : t.client.phase = .receiving
  drained : t.client.broker.receiveLength ≤ t.client.broker.receiveOffset
  sent : t.link.unsent = []
  inTime : now < t.client.broker.deadlineMs

/-- A run of `n` steps from `t₀`, and any number of vain questions. -/
inductive Transfer.Run (t₀ : Transfer η) : ℕ → Transfer η → Prop
  | start : Run t₀ 0 t₀
  | step {n t t'} : Run t₀ n t → Step q hash t t' → Run t₀ (n + 1) t'
  | poll {n t} (now : BitVec 64) : Run t₀ n t → t.Polls now → Run t₀ n (t.clientStep q hash now 0)

end Steps

/-- Both sides have returned without an error. -/
def Transfer.Done {η : Type} (t : Transfer η) : Prop :=
  t.handler.phase = .returned none ∧ t.client.phase = .ended .ok

/-- A side has returned an error. -/
def Transfer.Failed {η : Type} (t : Transfer η) : Prop :=
  (∃ err, t.handler.phase = .returned (some err)) ∨ ∃ status, status ≠ .ok ∧
    t.client.phase = .ended status

/-- The handler waits for octets that are not on their way. -/
def Transfer.HandlerWaits {η : Type} (t : Transfer η) : Prop :=
  t.handler.phase = .receiving ∧
    Server.readSlice t.handler.stream.bufferSize t.handler.buffered = none ∧ t.toGateway = []

/-- So does the client. -/
def Transfer.ClientWaits {η : Type} (t : Transfer η) : Prop :=
  t.client.phase = .receiving ∧ t.link.unsent = [] ∧
    t.client.broker.receiveLength ≤ t.client.broker.receiveOffset ∧ t.link.incoming = []

/-- DATA frames given out and not covered by an acknowledgement that was taken. -/
def Transfer.unacknowledged {η : Type} (t : Transfer η) : ℕ :=
  t.handler.sender.nextSequence.toNat - ackWindow.toNat * t.handler.sender.nextAck.toNat

/-! ### The joint invariant -/

/-- A client that has taken `r` frames: it is on its way, or done. -/
def LiveClient.Following {η : Type} (absorbed : η → Octets → Prop) (plan : BulkPlan)
    (digest : Digest) (image : Octets) (r : ℕ) (held : Octets) (c : LiveClient η) : Prop :=
  match c.phase with
  | .ended status => status = .ok ∧ r = chunkCount image.length + 1 ∧ held = [] ∧
      c.stream.complete = true ∧ c.stream.pages = image ∧ c.acks = chunkCount image.length / 8
  | _ => c.Taking absorbed plan digest image r held ∧ 0#64 < c.broker.deadlineMs

/-- The handler has given out `s` frames and taken `a` acknowledgements, the client has
taken `r` frames, and the rest is in between. -/
structure Transfer.Joint {η : Type} (absorbed : η → Octets → Prop) (limits : FrameLimits)
    (plan : BulkPlan) (requestId : RequestId) (digest : Digest) (image : Octets) (s r a : ℕ)
    (t : Transfer η) : Prop where
  handler : t.handler.Serving limits requestId image s a
  client : ∃ held, t.client.Following absorbed plan digest image r held ∧
    held ++ (t.client.broker.unread ++ (t.link.incoming ++ t.handler.unwritten))
      = recordsBetween (transferRecord requestId image) r s
  acks : t.handler.buffered ++ (t.toGateway ++ t.link.unsent)
    = recordsBetween (ackRecord requestId) a (min r (chunkCount image.length) / 8)
  le : r ≤ s
  acked : a ≤ min r (chunkCount image.length) / 8

/-- How far a handler is from its next wait. -/
def Recovery.Phase.weight : Phase → ℕ
  | .looping => 2
  | .receiving => 1
  | .writing _ => 3
  | .returned _ => 0

def LivePhase.weight : LivePhase → ℕ
  | .entering => 1
  | _ => 0

/-- What is still to be done: an octet costs less the nearer it is to its reader, a
frame to give out is worth all the octets of its record, a frame to take all those of
an acknowledgement. -/
def Transfer.weight {η : Type} (size s r : ℕ) (t : Transfer η) : ℕ :=
  49472 * (chunkCount size + 1 - s) + 201 * (chunkCount size + 1 - r) +
    (3 * t.handler.unwritten.length + 2 * t.link.incoming.length +
      t.client.broker.unread.length) +
    (4 * t.link.unsent.length + 3 * t.toGateway.length + 2 * t.handler.buffered.length) +
    (t.handler.phase.weight + t.client.phase.weight)

section Joint

variable {δ η : Type} {q : Qcbor δ} {hash : HashOps η} {sha256 : Octets → Digest}
  {absorbed : η → Octets → Prop} {limits : FrameLimits} {plan : BulkPlan} {requestId : RequestId}
  {digest : Digest} {image : Octets} {s r a : ℕ} {t : Transfer η} {c : LiveClient η} {held : Octets}

theorem LiveClient.Following.taking (h : c.Following absorbed plan digest image r held)
    (hp : ∀ status, c.phase ≠ .ended status) :
    c.Taking absorbed plan digest image r held ∧ 0#64 < c.broker.deadlineMs := by
  unfold LiveClient.Following at h
  split at h
  · exact absurd ‹_› (hp _)
  · exact h

theorem LiveClient.Taking.following (h : c.Taking absorbed plan digest image r held)
    (hdead : 0#64 < c.broker.deadlineMs) (hp : ∀ status, c.phase ≠ .ended status) :
    c.Following absorbed plan digest image r held := by
  unfold LiveClient.Following
  split
  · exact absurd ‹_› (hp _)
  · exact ⟨h, hdead⟩

variable (h : t.Joint absorbed limits plan requestId digest image s r a)

include h

/-- At most one acknowledgement is under way. -/
theorem Transfer.Joint.acks_le : min r (chunkCount image.length) / 8 ≤ a + 1 := by
  have hwindow := h.handler.sender.window
  have hle := h.le
  omega

/-- Octets moved from one buffer to the next change nothing but the weight. -/
theorem Transfer.Joint.write {last : Bool} {k : ℕ} (hp : t.handler.phase = .writing last) :
    Transfer.Joint absorbed limits plan requestId digest image s r a { t with
      handler := { t.handler with unwritten := t.handler.unwritten.drop k }
      link := { t.link with incoming := t.link.incoming ++ t.handler.unwritten.take k } } := by
  obtain ⟨held, hfollow, hdata⟩ := h.client
  have hphase := h.handler.phase
  simp only [Handler.PhaseOk, hp] at hphase
  refine { h with handler := { h.handler with phase := ?_ }, client := ⟨held, hfollow, ?_⟩ }
  · simpa only [Handler.PhaseOk, hp] using hphase
  · rw [← hdata, List.append_assoc, List.take_append_drop]

/-- The handler's turn. -/
theorem Transfer.Joint.turn (hl : Fits limits image.length) (hmax : image.length ≤ recoveryImageMax)
    (hp : t.handler.phase = .looping) : ∃ s',
      Transfer.Joint absorbed limits plan requestId digest image s' r a
        { t with handler := t.handler.turn false false } ∧
      Transfer.weight image.length s' r { t with handler := t.handler.turn false false }
        < t.weight image.length s r := by
  obtain ⟨held, hfollow, hdata⟩ := h.client
  obtain ⟨hs, ⟨hfull, hturn⟩ | ⟨h', hturn, hserving, hphase, hbuf, hun⟩⟩ :=
    h.handler.turn hmax hl hp
  · -- the window is full
    have hnil : t.handler.unwritten = [] := by
      have := h.handler.phase
      rw [Handler.PhaseOk, hp] at this
      exact this.2
    rw [hturn]
    refine ⟨s, { h with handler := { h.handler with phase := ⟨hs, hfull, hnil⟩ } }, ?_⟩
    simp only [Transfer.weight, hp, Phase.weight]
    omega
  · -- a frame goes out
    have hnil : t.handler.unwritten = [] := by
      have := h.handler.phase
      rw [Handler.PhaseOk, hp] at this
      exact this.2
    rw [hturn]
    rw [hnil, List.append_nil] at hdata
    refine ⟨s + 1, ⟨hserving, ⟨held, hfollow, ?_⟩, ?_, by have := h.le; omega, h.acked⟩, ?_⟩
    · rw [recordsBetween_succ _ h.le, ← hdata, hun]
      simp
    · rw [hbuf]
      exact h.acks
    · have hlen := length_transferRecord requestId image s
      simp only [Transfer.weight, hp, hphase, Phase.weight, hbuf, hun, hnil, List.length_append,
        List.length_singleton, List.length_nil]
      omega

/-- The write of a frame is over. -/
theorem Transfer.Joint.written {last : Bool} (hp : t.handler.phase = .writing last)
    (hnil : t.handler.unwritten = []) :
    Transfer.Joint absorbed limits plan requestId digest image s r a
        { t with handler := t.handler.written last } ∧
      Transfer.weight image.length s r { t with handler := t.handler.written last }
        < t.weight image.length s r := by
  have hphase := h.handler.phase
  have hbounded := h.handler.sender.bounded
  simp only [Handler.PhaseOk, hp] at hphase
  have hjoint : ∀ phase, Handler.PhaseOk image.length s a { t.handler with phase } →
      Transfer.Joint absorbed limits plan requestId digest image s r a
        { t with handler := { t.handler with phase } } := fun phase hok =>
    { h with handler := { h.handler with phase := hok } }
  by_cases hlast : s = chunkCount image.length + 1
  · rw [Handler.written, hphase, decide_eq_true hlast, if_pos rfl]
    refine ⟨hjoint _ ⟨rfl, hlast, hnil⟩, ?_⟩
    simp only [Transfer.weight, hp, Phase.weight]
    omega
  · rw [Handler.written, hphase, decide_eq_false hlast, if_neg (by decide)]
    refine ⟨hjoint _ ⟨by omega, hnil⟩, ?_⟩
    simp only [Transfer.weight, hp, Phase.weight]
    omega

/-- The handler's reader holds a whole acknowledgement, which is then the only one under
way, or asks for more. -/
theorem Transfer.Joint.reader (hl : Fits limits image.length) :
    (t.handler.buffered = ackRecord requestId a ++ [0#8] ∧ t.toGateway = [] ∧ t.link.unsent = [] ∧
      min r (chunkCount image.length) / 8 = a + 1) ∨
    (0#8 ∉ t.handler.buffered ∧
      Server.readSlice t.handler.stream.bufferSize t.handler.buffered = none) := by
  have hacks := h.acks
  have hone := h.acks_le
  have hsize : t.handler.stream.bufferSize = max 16 limits.encodedRecordMax := by
    rw [Server.Stream.bufferSize, h.handler.validator]
    simp [Wire.limitsOf]
  rcases Nat.lt_or_ge a (min r (chunkCount image.length) / 8) with hlt | hge
  · rw [show min r (chunkCount image.length) / 8 = a + 1 by omega,
      recordsBetween_succ _ (Nat.le_refl a), recordsBetween_of_le _ (Nat.le_refl a),
      List.nil_append] at hacks
    have hz := zero_notMem_stuffed (ackFrame requestId a).toFrame (ackFrame requestId a).payload
    by_cases hmem : 0#8 ∈ t.handler.buffered
    · left
      obtain ⟨u, rest, hsplit, hu⟩ := List.eq_append_cons_of_mem hmem
      rw [hsplit, List.append_assoc, List.cons_append] at hacks
      obtain ⟨rfl, hrest⟩ := delimited_inj hu hz hacks
      rw [List.append_eq_nil_iff, List.append_eq_nil_iff] at hrest
      obtain ⟨hnil, hchannel, hunsent⟩ := hrest
      exact ⟨by rw [hsplit, hnil]; rfl, hchannel, hunsent, by omega⟩
    · -- a full window is out, so every limit is that of a full frame
      right
      have hbig : 16384 < image.length := by
        have := lt_chunkCount_iff.mp (show 1 < chunkCount image.length by omega)
        omega
      have hlen := congrArg List.length hacks
      have hack := length_ackRecord requestId a
      have hroom := hl.record
      simp only [List.length_append, List.length_singleton] at hlen
      exact ⟨hmem, Server.readSlice_more hmem (by rw [hsize]; omega)⟩
  · right
    rw [recordsBetween_of_le _ hge, List.append_eq_nil_iff] at hacks
    rw [hacks.1]
    exact ⟨by simp, Server.readSlice_more (by simp) (by rw [hsize, List.length_nil]; omega)⟩

/-- The handler's reader finds the acknowledgement it waits for, and nothing else. -/
theorem Transfer.Joint.acknowledge (hl : Fits limits image.length)
    (hmax : image.length ≤ recoveryImageMax) (hp : t.handler.phase = .receiving)
    {result : Except Server.Error (Octets × Octets)}
    (hread : Server.readSlice t.handler.stream.bufferSize t.handler.buffered = some result) :
    Transfer.Joint absorbed limits plan requestId digest image s r (a + 1)
        { t with handler := t.handler.acknowledge result } ∧
      Transfer.weight image.length s r { t with handler := t.handler.acknowledge result }
        < t.weight image.length s r := by
  obtain ⟨held, hfollow, hdata⟩ := h.client
  have hnil : t.handler.unwritten = [] := by
    have := h.handler.phase
    rw [Handler.PhaseOk, hp] at this
    exact this.2.2
  rcases h.reader hl with ⟨hbuf, hchannel, hunsent, hone⟩ | ⟨-, hmore⟩
  · have hz := zero_notMem_stuffed (ackFrame requestId a).toFrame (ackFrame requestId a).payload
    have hfound := Server.readSlice_record t.handler.stream.bufferSize hz []
    rw [hbuf, show ackRecord requestId a ++ [0#8] = _ from rfl] at hread
    obtain rfl := Option.some.inj (hfound.symm.trans hread)
    obtain ⟨hserving, hphase, hbuf', hun⟩ := h.handler.acknowledge hmax hl hp []
    have hun' : (t.handler.acknowledge (.ok (ackRecord requestId a ++ [0#8], []))).unwritten
      = t.handler.unwritten := hun.trans hnil.symm
    refine ⟨⟨hserving, ⟨held, hfollow, ?_⟩, ?_, h.le, by omega⟩, ?_⟩
    · rw [← hdata]
      exact congrArg (fun x => held ++ (_ ++ (_ ++ x))) hun'
    · rw [hone, recordsBetween_of_le _ (Nat.le_refl _)]
      exact (congrArg (· ++ (t.toGateway ++ t.link.unsent)) hbuf').trans (by simp [hchannel, hunsent])
    · change Transfer.weight image.length s r
        { t with handler := t.handler.acknowledge (.ok (ackRecord requestId a ++ [0#8], [])) } < _
      simp only [Transfer.weight, hp, hphase, hbuf', hun', hbuf, Phase.weight, List.length_append,
        List.length_singleton, List.length_nil]
      omega
  · rw [hmore] at hread
    simp at hread

variable {now : BitVec 64}

omit h in
theorem Transfer.clientStep_eq {k : ℕ} {client : LiveClient η} {link : Link}
    (h : t.client.step (linkOps now k) q hash t.link = (client, link)) :
    t.clientStep q hash now k = { t with client, link } := by
  rw [Transfer.clientStep, h]

/-- The client asks its transport: octets move, if there are any. -/
theorem Transfer.Joint.ask (q : Qcbor δ) (hash : HashOps η) (k : ℕ)
    (hp : t.client.phase = .receiving)
    (he : t.client.broker.receiveLength ≤ t.client.broker.receiveOffset)
    (htime : now < t.client.broker.deadlineMs) :
    Transfer.Joint absorbed limits plan requestId digest image s r a (t.clientStep q hash now k) ∧
      Transfer.weight image.length s r (t.clientStep q hash now k)
          + min (min k t.client.broker.storage.receiveCap) t.link.incoming.length
        = t.weight image.length s r := by
  obtain ⟨held, hfollow, hdata⟩ := h.client
  have hrunning : ∀ status, t.client.phase ≠ .ended status := by simp [hp]
  obtain ⟨htaking, hdead⟩ := hfollow.taking hrunning
  obtain ⟨broker, hstep, htaken, hunread, hdeadline⟩ := htaking.ask hp q hash (k := k) (l := t.link) he
    htime
  rw [Transfer.clientStep_eq hstep]
  refine ⟨{ h with client := ⟨held, ?_, ?_⟩ }, ?_⟩
  · refine LiveClient.Taking.following { htaking with broker := htaken } ?_ hrunning
    simp only [hdeadline]
    exact hdead
  · rw [← hdata, Broker.unread_of_drained he]
    simp only [hunread, List.nil_append]
    rw [← List.append_assoc (List.take _ _), List.take_append_drop]
  · simp only [Transfer.weight, hunread, Broker.unread_of_drained he, List.length_take,
      List.length_drop, List.length_nil]
    omega

/-- The client works on the octets at hand. -/
theorem Transfer.Joint.work (q : Qcbor δ) (hops : hash.Incremental sha256 absorbed)
    (hplan : plan.Carries requestId image.length) (hmax : image.length ≤ recoveryImageMax)
    (hdigest : sha256 image = digest) (k : ℕ) (hp : t.client.phase = .receiving)
    (hsent : t.link.unsent = [])
    (he : ¬ t.client.broker.receiveLength ≤ t.client.broker.receiveOffset)
    (htime : now < t.client.broker.deadlineMs) : ∃ r',
      Transfer.Joint absorbed limits plan requestId digest image s r' a
        (t.clientStep q hash now k) ∧
      Transfer.weight image.length s r' (t.clientStep q hash now k) < t.weight image.length s r := by
  obtain ⟨held, hfollow, hdata⟩ := h.client
  have hrunning : ∀ status, t.client.phase ≠ .ended status := by simp [hp]
  obtain ⟨htaking, hdead⟩ := hfollow.taking hrunning
  have hbounded := htaking.bounded
  have hacks := h.acks
  have hacked := h.acked
  by_cases hmem : 0#8 ∈ t.client.broker.unread
  · -- the next record is complete
    obtain ⟨u, rest, hsplit, hu⟩ := List.eq_append_cons_of_mem hmem
    have hlt : r < s := by
      by_contra hge
      rw [recordsBetween_of_le _ (Nat.not_lt.mp hge), hsplit] at hdata
      simp at hdata
    have hz := zero_notMem_stuffed (transferFrame requestId image.length r) (chunk r image)
    rw [recordsBetween_cons _ hlt, hsplit, List.append_assoc, List.cons_append,
      ← List.append_assoc] at hdata
    obtain ⟨hrec, hrest⟩ := delimited_inj (by simp [htaking.broker.noDelimiter, hu]) hz hdata
    rcases Nat.lt_or_eq_of_le hbounded with hr | hr
    · obtain ⟨c', hstep, htaking', hphase, hunread, hdeadline⟩ := htaking.deliver (k := k)
        (l := t.link) hp he q hops hplan hmax htime hr hsplit hu hrec
      have hcost : (recordsBetween (ackRecord requestId) (r / 8) ((r + 1) / 8)).length ≤ 50 := by
        rcases Nat.lt_or_ge (r / 8) ((r + 1) / 8) with hnew | hsame
        · rw [show (r + 1) / 8 = r / 8 + 1 by omega, recordsBetween_succ _ (Nat.le_refl _),
            recordsBetween_of_le _ (Nat.le_refl _)]
          have := length_ackRecord requestId (r / 8)
          simp only [List.nil_append, List.length_append, List.length_singleton]
          omega
        · rw [recordsBetween_of_le _ hsame]
          simp
      rw [Transfer.clientStep_eq hstep]
      refine ⟨r + 1, ⟨h.handler, ⟨[], ?_, ?_⟩, ?_, hlt, by omega⟩, ?_⟩
      · exact htaking'.following (by rw [hdeadline]; exact hdead) (by simp [hphase])
      · simp only [hunread, List.nil_append]
        exact hrest
      · rw [hsent] at hacks ⊢
        simp only [List.append_nil, List.nil_append] at hacks ⊢
        rw [Nat.min_eq_left hr, ← List.append_assoc, hacks, Nat.min_eq_left hbounded]
        exact recordsBetween_append _ (by omega) (by omega)
      · simp only [Transfer.weight, hp, hphase, LivePhase.weight, hunread, hsplit, hsent,
          List.length_append, List.length_cons, List.length_nil]
        omega
    · obtain ⟨c', hstep, hphase, hcomplete, hpages, hacks', hunread⟩ := htaking.finish (k := k)
        (l := t.link) hp he q now hops hplan hmax hdigest hr hsplit hu hrec
      have hs : s = r + 1 := by
        have := h.handler.sender.bounded
        omega
      rw [hs, recordsBetween_of_le _ (Nat.le_refl _), List.append_eq_nil_iff] at hrest
      rw [Transfer.clientStep_eq hstep]
      refine ⟨r + 1, ⟨h.handler, ⟨[], ?_, ?_⟩, ?_, hlt, by omega⟩, ?_⟩
      · simp only [LiveClient.Following, hphase]
        exact ⟨trivial, by omega, trivial, hcomplete, hpages, by rw [hacks', hr]⟩
      · rw [hs, recordsBetween_of_le _ (Nat.le_refl _), hunread]
        exact hrest.2
      · rw [Nat.min_eq_right (by omega), ← hr]
        rwa [Nat.min_eq_left hbounded] at hacks
      · simp only [Transfer.weight, hp, hphase, LivePhase.weight, hunread, hsplit,
          List.length_append, List.length_cons, List.length_nil]
        omega
  · -- more octets of the record
    obtain ⟨broker, hstep, htaken, hunread, hdeadline⟩ := htaking.gather hp he (linkOps now k) q hash
      hmem t.link
    have hpos : t.client.broker.unread.length ≠ 0 := by
      rw [Broker.unread, List.length_drop, List.length_take,
        Nat.min_eq_left htaking.broker.inBuffer]
      omega
    rw [Transfer.clientStep_eq hstep]
    refine ⟨r, { h with client := ⟨held ++ t.client.broker.unread, ?_, ?_⟩ }, ?_⟩
    · refine LiveClient.Taking.following { htaking with broker := htaken } ?_ hrunning
      simp only [hdeadline]
      exact hdead
    · rw [← hdata]
      simp [hunread]
    · simp only [Transfer.weight, hunread, List.length_nil]
      omega

/-- **Every step keeps the invariant and costs weight.** -/
theorem Transfer.Joint.step (hops : hash.Incremental sha256 absorbed)
    (hl : Fits limits image.length) (hplan : plan.Carries requestId image.length)
    (hmax : image.length ≤ recoveryImageMax) (hdigest : sha256 image = digest) {t' : Transfer η}
    (hstep : Transfer.Step q hash t t') : ∃ s' r' a',
      t'.Joint absorbed limits plan requestId digest image s' r' a' ∧
        t'.weight image.length s' r' < t.weight image.length s r := by
  cases hstep with
  | turn hp =>
    obtain ⟨s', hjoint, hweight⟩ := h.turn hl hmax hp
    exact ⟨s', r, a, hjoint, hweight⟩
  | write k hp hk hle =>
    refine ⟨s, r, a, h.write hp, ?_⟩
    simp only [Transfer.weight, List.length_append, List.length_take, List.length_drop]
    omega
  | written hp hnil =>
    obtain ⟨hjoint, hweight⟩ := h.written hp hnil
    exact ⟨s, r, a, hjoint, hweight⟩
  | read k hp hmore hk hle hroom =>
    refine ⟨s, r, a, { h with handler := { h.handler with }, acks := ?_ }, ?_⟩
    · rw [← h.acks]
      simp only [List.append_assoc]
      rw [← List.append_assoc (List.take _ _), List.take_append_drop]
    · simp only [Transfer.weight, List.length_append, List.length_take, List.length_drop]
      omega
  | acknowledge hp hread =>
    obtain ⟨hjoint, hweight⟩ := h.acknowledge hl hmax hp hread
    exact ⟨s, r, a + 1, hjoint, hweight⟩
  | send k hk hle =>
    refine ⟨s, r, a, { h with acks := ?_ }, ?_⟩
    · rw [← h.acks]
      simp only [List.append_assoc, List.take_append_drop]
    · simp only [Transfer.weight, List.length_append, List.length_take, List.length_drop]
      omega
  | client now k hsent htime hmoves =>
    unfold Transfer.ClientMoves at hmoves
    split at hmoves
    · -- the client calls `bulk_receive`
      rename_i hp
      obtain ⟨held, hfollow, hdata⟩ := h.client
      obtain ⟨htaking, hdead⟩ := hfollow.taking (by simp [hp])
      rw [Transfer.clientStep_eq (htaking.enter (linkOps now k) q hash hp t.link)]
      refine ⟨s, r, a, { h with client := ⟨held, ?_, hdata⟩ }, ?_⟩
      · exact LiveClient.Taking.following { htaking with } hdead (by simp)
      · simp only [Transfer.weight, hp, LivePhase.weight]
        omega
    · rename_i hp
      by_cases he : t.client.broker.receiveLength ≤ t.client.broker.receiveOffset
      · obtain ⟨hk, hne⟩ := hmoves.resolve_left (by omega)
        obtain ⟨hjoint, hweight⟩ := h.ask q hash k hp he htime
        have hcap : 0 < t.client.broker.storage.receiveCap := by
          obtain ⟨held, hfollow, -⟩ := h.client
          exact (hfollow.taking (by simp [hp])).1.broker.receiveCap
        have hpos := List.length_pos_iff.mpr hne
        exact ⟨s, r, a, hjoint, by omega⟩
      · obtain ⟨r', hjoint, hweight⟩ := h.work q hops hplan hmax hdigest k hp hsent he htime
        exact ⟨s, r', a, hjoint, hweight⟩
    · exact absurd hmoves id

/-- A waiting client has taken every frame that was written. -/
theorem Transfer.Joint.clientWaits (hw : t.ClientWaits) (hnil : t.handler.unwritten = []) :
    r = s ∧ r ≤ chunkCount image.length := by
  obtain ⟨hp, -, he, hincoming⟩ := hw
  obtain ⟨held, hfollow, hdata⟩ := h.client
  obtain ⟨htaking, -⟩ := hfollow.taking (by simp [hp])
  rw [Broker.unread_of_drained he, hincoming, hnil] at hdata
  have hle := h.le
  refine ⟨?_, htaking.bounded⟩
  by_contra hne
  rw [recordsBetween_cons _ (show r < s by omega)] at hdata
  simp only [List.append_nil] at hdata
  exact htaking.broker.noDelimiter (by rw [hdata]; simp)

/-- A waiting handler has taken every acknowledgement that was sent. -/
theorem Transfer.Joint.handlerWaits (hw : t.HandlerWaits) (hnil : t.link.unsent = []) :
    a = min r (chunkCount image.length) / 8 := by
  obtain ⟨-, hmore, hchannel⟩ := hw
  have hacks := h.acks
  have hacked := h.acked
  rw [hchannel, hnil] at hacks
  simp only [List.append_nil] at hacks
  have hz : 0#8 ∉ t.handler.buffered := by
    intro hmem
    rw [Server.readSlice, if_pos hmem] at hmore
    simp at hmore
  by_contra hne
  rw [recordsBetween_cons _ (show a < min r (chunkCount image.length) / 8 by omega)] at hacks
  exact hz (by rw [hacks]; simp)

/-- **The two sides never wait for each other.** -/
theorem Transfer.Joint.not_both_wait : ¬ (t.HandlerWaits ∧ t.ClientWaits) := by
  rintro ⟨hhandler, hclient⟩
  obtain ⟨hs, hfull, hnil⟩ : s ≤ chunkCount image.length ∧ s = 8 * a + 8 ∧
      t.handler.unwritten = [] := by
    have := h.handler.phase
    rwa [Handler.PhaseOk, hhandler.1] at this
  have hr := (h.clientWaits hclient hnil).1
  have ha := h.handlerWaits hhandler hclient.2.1
  omega

/-- A side that does not wait can move. -/
theorem Transfer.Joint.client_moves (q : Qcbor δ) (hash : HashOps η)
    (hrunning : ∀ status, t.client.phase ≠ .ended status) :
    t.ClientWaits ∨ ∃ t', Transfer.Step q hash t t' := by
  obtain ⟨held, hfollow, -⟩ := h.client
  obtain ⟨htaking, hdead⟩ := hfollow.taking hrunning
  rcases hsent : t.link.unsent with _ | ⟨x, xs⟩
  · rcases hp : t.client.phase with _ | _ | status
    · exact .inr ⟨_, .client 0#64 0 hsent hdead (by simp [Transfer.ClientMoves, hp])⟩
    · by_cases he : t.client.broker.receiveLength ≤ t.client.broker.receiveOffset
      · by_cases hnil : t.link.incoming = []
        · exact .inl ⟨hp, hsent, he, hnil⟩
        · refine .inr ⟨_, .client 0#64 1 hsent hdead ?_⟩
          simp [Transfer.ClientMoves, hp, hnil]
      · refine .inr ⟨_, .client 0#64 0 hsent hdead ?_⟩
        simp only [Transfer.ClientMoves, hp]
        omega
    · exact absurd hp (hrunning status)
  · exact .inr ⟨_, .send 1 (by decide) (by simp [hsent])⟩

/-- **Only a finished transfer is stuck.** -/
theorem Transfer.Joint.progress (q : Qcbor δ) (hash : HashOps η) :
    t.Done ∨ ∃ t', Transfer.Step q hash t t' := by
  have hphase := h.handler.phase
  have hle := h.le
  rcases hp : t.handler.phase with _ | _ | last | err
  · exact .inr ⟨_, .turn hp⟩
  · -- the handler waits for an acknowledgement
    simp only [Handler.PhaseOk, hp] at hphase
    obtain ⟨hs, hfull, hnil⟩ := hphase
    have hrunning : ∀ status, t.client.phase ≠ .ended status := by
      intro status hend
      obtain ⟨held, hfollow, -⟩ := h.client
      simp only [LiveClient.Following, hend] at hfollow
      omega
    rcases h.client_moves q hash hrunning with hclient | hstep
    · rcases hread : Server.readSlice t.handler.stream.bufferSize t.handler.buffered with _ | result
      · rcases hchannel : t.toGateway with _ | ⟨x, xs⟩
        · exact absurd ⟨⟨hp, hread, hchannel⟩, hclient⟩ h.not_both_wait
        · refine .inr ⟨_, .read 1 hp hread (by decide) (by simp [hchannel]) ?_⟩
          by_contra hroom
          rw [Server.readSlice] at hread
          split_ifs at hread
          omega
      · exact .inr ⟨_, .acknowledge hp hread⟩
    · exact .inr hstep
  · by_cases hnil : t.handler.unwritten = []
    · exact .inr ⟨_, .written hp hnil⟩
    · have := List.length_pos_iff.mpr hnil
      exact .inr ⟨_, .write 1 hp (by decide) (by omega)⟩
  · -- the handler is done
    simp only [Handler.PhaseOk, hp] at hphase
    obtain ⟨rfl, hs, hnil⟩ := hphase
    by_cases hend : ∃ status, t.client.phase = .ended status
    · obtain ⟨status, hend⟩ := hend
      obtain ⟨held, hfollow, -⟩ := h.client
      simp only [LiveClient.Following, hend] at hfollow
      exact .inl ⟨hp, by rw [hend, hfollow.1]⟩
    · rcases h.client_moves q hash (fun status hstatus => hend ⟨status, hstatus⟩) with hclient | hstep
      · have := h.clientWaits hclient hnil
        omega
      · exact .inr hstep

/-- A run keeps the invariant, and every step of it is paid for. -/
theorem Transfer.Joint.run (hops : hash.Incremental sha256 absorbed) (hl : Fits limits image.length)
    (hplan : plan.Carries requestId image.length) (hmax : image.length ≤ recoveryImageMax)
    (hdigest : sha256 image = digest) {n : ℕ} {t' : Transfer η} (hrun : Transfer.Run q hash t n t') :
    ∃ s' r' a',
      t'.Joint absorbed limits plan requestId digest image s' r' a' ∧
        n + t'.weight image.length s' r' ≤ t.weight image.length s r := by
  induction hrun with
  | start => exact ⟨s, r, a, h, by omega⟩
  | step _ hstep ih =>
    obtain ⟨s', r', a', hjoint, hweight⟩ := ih
    obtain ⟨s'', r'', a'', hjoint', hless⟩ := hjoint.step hops hl hplan hmax hdigest hstep
    exact ⟨s'', r'', a'', hjoint', by omega⟩
  | poll now _ hpoll ih =>
    obtain ⟨s', r', a', hjoint, hweight⟩ := ih
    obtain ⟨hjoint', hsame⟩ := hjoint.ask q hash 0 hpoll.phase hpoll.drained hpoll.inTime
    exact ⟨s', r', a', hjoint', by omega⟩

/-- No error is returned. -/
theorem Transfer.Joint.not_failed : ¬ t.Failed := by
  rintro (⟨err, hp⟩ | ⟨status, hne, hp⟩)
  · have := h.handler.phase
    simp [Handler.PhaseOk, hp] at this
  · obtain ⟨held, hfollow, -⟩ := h.client
    simp only [LiveClient.Following, hp] at hfollow
    exact hne hfollow.1

/-- The window holds. -/
theorem Transfer.Joint.unacknowledged_le (hmax : image.length ≤ recoveryImageMax) :
    t.unacknowledged ≤ 8 := by
  have hcount := chunkCount_le hmax
  have hwindow := h.handler.sender.window
  have hacked := h.handler.sender.acked
  rw [Transfer.unacknowledged, h.handler.sender.nextSequence, h.handler.sender.nextAck,
    BitVec.toNat_ofNat, BitVec.toNat_ofNat, Nat.mod_eq_of_lt (by omega),
    Nat.mod_eq_of_lt (by omega), show ackWindow.toNat = 8 from rfl]
  omega

/-- A finished transfer has delivered the image, and nothing is under way. -/
theorem Transfer.Joint.done (hmax : image.length ≤ recoveryImageMax) (hdone : t.Done) :
    t.handler.sender.complete = true ∧ t.client.stream.complete = true ∧
      t.client.stream.pages = image ∧ t.client.acks = chunkCount image.length / 8 ∧
      t.handler.sender.nextAck.toNat = chunkCount image.length / 8 ∧
      t.handler.buffered = [] ∧ t.toGateway = [] ∧ t.link.unsent = [] ∧ t.link.incoming = [] := by
  have hcount := chunkCount_le hmax
  have hphase := h.handler.phase
  simp only [Handler.PhaseOk, hdone.1] at hphase
  obtain ⟨-, hs, -⟩ := hphase
  obtain ⟨held, hfollow, hdata⟩ := h.client
  simp only [LiveClient.Following, hdone.2] at hfollow
  obtain ⟨-, hr, -, hcomplete, hpages, hacks⟩ := hfollow
  have hended := h.handler.sender.ended hs
  have hacked := h.acked
  have ha : a = chunkCount image.length / 8 := by
    have := h.handler.sender.acked
    omega
  have hempty := h.acks
  rw [recordsBetween_of_le _ (by omega), List.append_eq_nil_iff, List.append_eq_nil_iff] at hempty
  rw [recordsBetween_of_le _ (by omega), List.append_eq_nil_iff, List.append_eq_nil_iff,
    List.append_eq_nil_iff] at hdata
  refine ⟨by rw [h.handler.sender.complete, decide_eq_true hs], hcomplete, hpages, hacks, ?_,
    hempty.1, hempty.2.1, hempty.2.2, hdata.2.2.1⟩
  rw [h.handler.sender.nextAck, BitVec.toNat_ofNat, Nat.mod_eq_of_lt (by omega), ha]

end Joint

/-- Room for the frames of a transfer of `size` octets: their payloads, and their
records in the worst case of the stuffing. -/
def FrameRoom (payloadMax recordMax size : ℕ) : Prop :=
  min 16384 size ≤ payloadMax ∧
    40 + min 16384 size + (40 + min 16384 size) / 254 + 2 ≤ recordMax

/-- The two sides at the heads of their loops. -/
def transferStart {η : Type} (decoder : Wire.Decoder) (requestId : RequestId)
    (sender : StreamSender) (b : Broker) (stream : RecoveryStream η) : Transfer η :=
  ⟨⟨sender, Server.newStream decoder ⟨serviceRecoveryArtifact, messageRequest, 0#8, requestId, 0#32⟩,
      [], [], .looping⟩, ⟨b, stream, .entering, 0⟩, ⟨[], []⟩, []⟩

variable {requestId : RequestId} {b : Broker}

theorem bulkBegin_requestId {σ : Type} {ops : BrokerOps σ} {service : ServiceId}
    {requestBody : Octets} {exactDataSize : ℕ} {timeoutMs : BitVec 32} {b' : Broker} {w w' : σ}
    (h : bulkBegin ops service requestId requestBody exactDataSize
      timeoutMs b w = (.ok, b', w')) : allZero requestId.toList = false := by
  rw [bulkBegin] at h
  split_ifs at h with hargs
  · simp at h
  all_goals
    rw [not_or, Bool.not_eq_false, requestIdIsNonzero, List.any_eq_true] at hargs
    obtain ⟨⟨x, hx, hne⟩, -⟩ := hargs
    rw [allZero, List.all_eq_false]
    exact ⟨x, hx, by simpa using hne⟩

/-- The invariant holds at the start. -/
theorem transferStart_joint {η : Type} {absorbed : η → Octets → Prop} (limits : FrameLimits)
    {digest : Digest} {image : Octets} {sender : StreamSender} {stream : RecoveryStream η}
    (hb : BulkFresh serviceRecoveryArtifact requestId image.length b)
    (hsent : sender.Sent requestId image 0 0)
    (hstream : stream.Receiving absorbed requestId digest image 0) :
    (transferStart ⟨Wire.limitsOf limits⟩ requestId sender b stream).Joint absorbed limits b.plan
      requestId digest image 0 0 0 := by
  refine ⟨⟨hsent, rfl, rfl, rfl, rfl, ⟨Nat.zero_le _, rfl⟩⟩, ⟨[], ?_, ?_⟩, ?_, Nat.le_refl _,
    Nat.zero_le _⟩
  · have hid : b.plan.requestId = requestId := hb.requestId
    refine LiveClient.Taking.following ⟨?_, ?_, rfl, Nat.zero_le _⟩ hb.deadline (by simp [transferStart])
    · exact ⟨hb.live, hb.notComplete, hb.sequence, hb.received.trans (by simp), hb.acks, hb.inBuffer,
        hb.receiveCap, hb.reader, by simp⟩
    · rw [hid]
      exact hstream
  · rw [recordsBetween_of_le _ (Nat.le_refl _)]
    simp [transferStart, hb.unread]
  · rw [recordsBetween_of_le _ (by simp)]
    rfl

/-- A hash that remembers what it has seen. -/
def sampleHash : HashOps Octets :=
  ⟨fun _ => (.ok, []), fun s h => (.ok, h ++ s),
    fun h => (.ok, List.Vector.replicate 32 (BitVec.ofNat 8 h.length), h), fun _ => []⟩

end Pbns
