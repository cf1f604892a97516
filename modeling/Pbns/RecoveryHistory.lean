/-
The recovery stream under arbitrary frames.

`streamCalls` runs any calls on a stream, whatever the frames are and whatever the hash
operations return.  The operations are traced, so that a run shows which of them it made:

* `recoveryStreamAccept_cases`, `recoveryStreamComplete_cases` — a call is refused, fails the
  stream, or takes the frame;
* `StreamKept` and `StreamKept.call` — the invariant of a stream and the frames it took;
* `recovery_stream_history` — runs of calls after a successful init.
-/
import Pbns.RecoveryStream

namespace Pbns

open Octets

/-! ### Traced hash operations -/

inductive HashCall
  | begin
  | update
  | finish
  | clear
  deriving DecidableEq

section Traced

variable {η : Type}

/-- The same operations, with a record of the calls. -/
def HashOps.traced (ops : HashOps η) : HashOps (η × List HashCall) where
  begin := fun (h, calls) => let (status, h) := ops.begin h; (status, h, calls ++ [.begin])
  update := fun data (h, calls) =>
    let (status, h) := ops.update data h
    (status, h, calls ++ [.update])
  finish := fun (h, calls) =>
    let (status, digest, h) := ops.finish h
    (status, digest, h, calls ++ [.finish])
  clear := fun (h, calls) => (ops.clear h, calls ++ [.clear])

/-- The context after the given data, if no update fails. -/
def hashUpdates (ops : HashOps η) : η → List Octets → Option η
  | h, [] => some h
  | h, data :: rest =>
    match ops.update data h with
    | (.ok, h) => hashUpdates ops h rest
    | _ => none

theorem hashUpdates_append {ops : HashOps η} {h h' h'' : η} {data : List Octets} {last : Octets}
    (hdata : hashUpdates ops h data = some h') (hlast : ops.update last h' = (.ok, h'')) :
    hashUpdates ops h (data ++ [last]) = some h'' := by
  induction data generalizing h with
  | nil =>
    obtain rfl := Option.some.inj hdata
    simp [hashUpdates, hlast]
  | cons first rest ih =>
    rw [List.cons_append, hashUpdates]
    rw [hashUpdates] at hdata
    split at hdata
    · exact ih hdata
    · simp at hdata

end Traced

/-! ### What a call does -/

section Cases

variable {η : Type} {ops : HashOps η} {stream : RecoveryStream η} {frame : Frame} {payload : Octets}

/-- The stream takes no more frames. -/
def RecoveryStream.Closed (stream : RecoveryStream η) : Prop :=
  stream.initialized = false ∨ stream.complete = true ∨ stream.failed = true

/-- The stream fails, after the hash operations did something to its context. -/
def RecoveryStream.FailsTo (ops : HashOps η) (stream stream' : RecoveryStream η)
    (contexts : List η) : Prop :=
  ∃ hashContext ∈ contexts, stream' = { stream with hashContext }.fail ops

theorem recoveryStreamAccept_closed (h : stream.Closed) :
    recoveryStreamAccept ops stream frame payload = (.errState, recoveryAckNone, stream) :=
  if_pos h

theorem recoveryStreamComplete_closed (h : stream.Closed) :
    recoveryStreamComplete ops stream frame payload = (.errState, stream) :=
  if_pos h

/-- An open stream fails on a frame, or takes it as the next chunk. -/
theorem recoveryStreamAccept_cases (h : ¬ stream.Closed) :
    (∃ status stream', status ≠ .ok ∧
      recoveryStreamAccept ops stream frame payload = (status, recoveryAckNone, stream') ∧
      stream.FailsTo ops stream' [stream.hashContext, (ops.update payload stream.hashContext).2]) ∨
    ∃ hashContext, ops.update payload stream.hashContext = (.ok, hashContext) ∧
      stream.offset ≤ stream.imageSize ∧ payload.length ≠ 0 ∧
      payload.length = min recoveryChunkSize (stream.imageSize - stream.offset) ∧
      stream.nextSequence ≠ uint32Max ∧
      recoveryStreamAccept ops stream frame payload =
        if stream.recordsSinceAck + 1#32 = recoveryAckWindow then
          (.ok, ⟨true, stream.nextSequence + 1#32, recoveryAckWindow⟩,
            { stream.stored payload hashContext with recordsSinceAck := 0#32 })
        else (.ok, recoveryAckNone, stream.stored payload hashContext) := by
  obtain ⟨result, hresult⟩ : ∃ result, recoveryStreamAccept ops stream frame payload = result :=
    ⟨_, rfl⟩
  rw [hresult]
  unfold RecoveryStream.Closed at h
  rw [recoveryStreamAccept, if_neg h] at hresult
  -- every test fails the stream before the hash operations are called
  have hfail : ∀ status, status ≠ Status.ok → (status, recoveryAckNone, stream.fail ops) = result →
      ∃ status stream', status ≠ .ok ∧ result = (status, recoveryAckNone, stream') ∧
        stream.FailsTo ops stream'
          [stream.hashContext, (ops.update payload stream.hashContext).2] := by
    intro status hne heq
    exact ⟨status, _, hne, heq.symm, stream.hashContext, by simp, rfl⟩
  split at hresult
  · exact .inl (hfail _ ‹_› hresult)
  rename_i hvalid
  split at hresult
  · exact .inl (hfail _ (by decide) hresult)
  split at hresult
  · exact .inl (hfail _ (by decide) hresult)
  split at hresult
  · exact .inl (hfail _ (by decide) hresult)
  rename_i hsize
  dsimp only at hresult
  split at hresult
  · exact .inl (hfail _ (by decide) hresult)
  rename_i hexpected
  rw [not_or, not_or] at hsize
  rw [not_or, not_not] at hexpected
  rw [recoveryStreamStore] at hresult
  split at hresult
  · rename_i hashContext hupdate
    refine .inr ⟨hashContext, hupdate, by omega, hsize.1, hexpected.2, ?_, hresult.symm⟩
    intro hmax
    rw [not_not, RecoveryStream.validateFrame] at hvalid
    split_ifs at hvalid with _ _ _ hsequence
    exact hsequence (.inr hmax)
  · rename_i status hashContext hne hupdate
    refine .inl ⟨status, _, hne, hresult.symm, hashContext, ?_, rfl⟩
    simp [hupdate]

/-- An open stream fails on a frame, or completes on it. -/
theorem recoveryStreamComplete_cases (h : ¬ stream.Closed) :
    (∃ status stream', status ≠ .ok ∧
      recoveryStreamComplete ops stream frame payload = (status, stream') ∧
      stream.FailsTo ops stream' [stream.hashContext, (ops.finish stream.hashContext).2.2]) ∨
    ∃ hashContext, ops.finish stream.hashContext = (.ok, stream.expectedDigest, hashContext) ∧
      stream.offset = stream.imageSize ∧
      recoveryStreamComplete ops stream frame payload = (.ok, { stream with
        hashContext := ops.clear hashContext, hashActive := false
        nextSequence := stream.nextSequence + 1#32, complete := true }) := by
  obtain ⟨result, hresult⟩ : ∃ result, recoveryStreamComplete ops stream frame payload = result :=
    ⟨_, rfl⟩
  rw [hresult]
  unfold RecoveryStream.Closed at h
  rw [recoveryStreamComplete, if_neg h] at hresult
  have hfail : ∀ status, status ≠ Status.ok → (status, stream.fail ops) = result →
      ∃ status stream', status ≠ .ok ∧ result = (status, stream') ∧
        stream.FailsTo ops stream' [stream.hashContext, (ops.finish stream.hashContext).2.2] := by
    intro status hne heq
    exact ⟨status, _, hne, heq.symm, stream.hashContext, by simp, rfl⟩
  split at hresult
  · exact .inl (hfail _ ‹_› hresult)
  split at hresult
  · exact .inl (hfail _ (by decide) hresult)
  split at hresult
  · exact .inl (hfail _ (by decide) hresult)
  rename_i hoffset
  rw [not_not] at hoffset
  split at hresult
  · rename_i digest hashContext hfinish
    split at hresult
    · exact .inl ⟨_, _, by decide, hresult.symm, hashContext, by simp [hfinish], rfl⟩
    · rename_i hdigest
      rw [not_not] at hdigest
      subst hdigest
      exact .inr ⟨hashContext, hfinish, hoffset, hresult.symm⟩
  · rename_i status digest hashContext hne hfinish
    exact .inl ⟨status, _, hne, hresult.symm, hashContext, by simp [hfinish], rfl⟩

end Cases

/-! ### Runs of calls -/

inductive StreamCall
  | accept (frame : Frame) (payload : Octets)
  | complete (frame : Frame) (payload : Octets)

/-- A call with the status and the acknowledgement it returned. -/
structure StreamEvent where
  call : StreamCall
  status : Status
  ack : RecoveryAck

section Runs

variable {η : Type} (ops : HashOps η)

def streamCall (stream : RecoveryStream η) : StreamCall → Status × RecoveryAck × RecoveryStream η
  | .accept frame payload => recoveryStreamAccept ops stream frame payload
  | .complete frame payload =>
    let (status, stream) := recoveryStreamComplete ops stream frame payload
    (status, recoveryAckNone, stream)

def streamCalls : List StreamCall → RecoveryStream η → List StreamEvent × RecoveryStream η
  | [], stream => ([], stream)
  | call :: calls, stream =>
    let (status, ack, stream) := streamCall ops stream call
    let (events, stream) := streamCalls calls stream
    (⟨call, status, ack⟩ :: events, stream)

end Runs

/-- The payload of an accepted DATA frame. -/
def StreamEvent.data : StreamEvent → Option Octets
  | ⟨.accept _ payload, .ok, _⟩ => some payload
  | _ => none

theorem StreamEvent.data_of_failed {event : StreamEvent} (h : event.status ≠ .ok) :
    event.data = none := by
  obtain ⟨call, status, ack⟩ := event
  cases call <;> cases status <;> first | rfl | exact absurd rfl h

def acceptedData (events : List StreamEvent) : List Octets := events.filterMap StreamEvent.data

/-- The number of frames that were taken, COMPLETE among them. -/
def acceptedFrames (events : List StreamEvent) : ℕ :=
  (events.filter (·.status = .ok)).length

section History

variable {η : Type} {ops : HashOps η} {h₀ : η} {initial : Octets} {digest : Digest}
  {stream stream' : RecoveryStream (η × List HashCall)} {data : List Octets} {frames : ℕ}

/-- The stream has taken the chunks `data` and `frames` frames in all. -/
structure StreamKept (ops : HashOps η) (h₀ : η) (initial : Octets) (digest : Digest)
    (data : List Octets) (frames : ℕ) (stream : RecoveryStream (η × List HashCall)) : Prop where
  initialized : stream.initialized = true
  expected : stream.expectedDigest = digest
  size : stream.imageSize = initial.length
  most : initial.length ≤ recoveryImageMax
  pages : stream.pages = data.flatten ++ initial.drop stream.offset
  filled : data.flatten.length = stream.offset
  offset : stream.offset = min (16384 * data.length) initial.length
  chunks : data.length ≤ chunkCount initial.length
  taken : frames = data.length + if stream.complete then 1 else 0
  nextSequence : stream.nextSequence = BitVec.ofNat 32 frames
  recordsSinceAck : stream.recordsSinceAck = BitVec.ofNat 32 (data.length % 8)
  active : stream.hashActive = (!stream.complete && !stream.failed)
  hashed : stream.hashActive = true → ∃ h, ops.begin h₀ = (.ok, h) ∧
    hashUpdates ops h data = some stream.hashContext.1
  begun : stream.hashContext.2.count .begin = 1
  cleared : stream.hashContext.2.count .clear = if stream.hashActive then 0 else 1

variable (h : StreamKept ops h₀ initial digest data frames stream)

include h

theorem StreamKept.closed_iff : stream.Closed ↔ stream.hashActive = false := by
  rw [RecoveryStream.Closed, h.initialized, h.active]
  cases stream.complete <;> cases stream.failed <;> simp

variable {hashContext : η × List HashCall}

variable (hopen : ¬ stream.Closed)

include hopen

/-- A failed stream keeps what it has, and its hash context is cleared. -/
theorem StreamKept.fail (hbegun : hashContext.2.count .begin = 1)
    (hcleared : hashContext.2.count .clear = 0) :
    StreamKept ops h₀ initial digest data frames ({ stream with hashContext }.fail ops.traced) ∧
      ({ stream with hashContext }.fail ops.traced).Closed := by
  rw [h.closed_iff, Bool.not_eq_false] at hopen
  rw [RecoveryStream.fail, if_pos hopen]
  refine ⟨{ h with
    active := by simp, hashed := fun hc => absurd hc (by simp), begun := ?_, cleared := ?_ },
    .inr (.inr rfl)⟩
  · simp [HashOps.traced, hbegun]
  · simp [HashOps.traced, hcleared]

/-- The next chunk lies behind the octets there are. -/
theorem StreamKept.stored {payload : Octets}
    (hupdate : ops.traced.update payload stream.hashContext = (.ok, hashContext))
    (hle : stream.offset ≤ stream.imageSize) (hne : payload.length ≠ 0)
    (hlen : payload.length = min recoveryChunkSize (stream.imageSize - stream.offset))
    {since : BitVec 32} (hsince : since = BitVec.ofNat 32 ((data.length + 1) % 8)) :
    StreamKept ops h₀ initial digest (data ++ [payload]) (frames + 1)
      { stream.stored payload hashContext with recordsSinceAck := since } := by
  rw [h.closed_iff, Bool.not_eq_false] at hopen
  have hactive := h.active
  rw [hopen] at hactive
  have hcomplete : stream.complete = false := by
    cases hc : stream.complete with
    | false => rfl
    | true => simp [hc] at hactive
  have hsize := h.size
  have hoffset := h.offset
  have hfilled := h.filled
  rw [recoveryChunkSize] at hlen
  -- there was room, so every chunk so far was a full one
  have hfull : stream.offset = 16384 * data.length := by omega
  have hdrop : stream.pages.drop (stream.offset + payload.length) =
      initial.drop (stream.offset + payload.length) := by
    rw [h.pages, List.drop_append, List.drop_of_length_le (by omega), List.nil_append,
      List.drop_drop, hfilled]
    congr 1
    omega
  have htake : stream.pages.take stream.offset = data.flatten := by
    rw [h.pages, List.take_append_of_le_length (by omega), List.take_of_length_le (by omega)]
  obtain ⟨h₁, hbegin, hhashed⟩ := h.hashed hopen
  have hlast : ops.update payload stream.hashContext.1 = (.ok, hashContext.1) := by
    obtain ⟨hstatus, hcontext⟩ := Prod.mk.inj hupdate
    exact Prod.ext hstatus (congrArg Prod.fst hcontext)
  have hcalls : hashContext.2 = stream.hashContext.2 ++ [.update] :=
    (congrArg Prod.snd (Prod.mk.inj hupdate).2).symm
  exact {
    initialized := h.initialized
    expected := h.expected
    size := h.size
    most := h.most
    pages := by
      simp only [RecoveryStream.stored]
      rw [htake, hdrop]
      simp
    filled := by
      rw [List.flatten_append, List.length_append, hfilled]
      simp [RecoveryStream.stored]
    offset := by
      simp only [RecoveryStream.stored, List.length_append, List.length_singleton]
      omega
    chunks := by
      rw [List.length_append, List.length_singleton]
      exact lt_chunkCount_iff.mpr (by omega)
    taken := by
      rw [h.taken]
      simp [RecoveryStream.stored, hcomplete]
    nextSequence := by
      simp only [RecoveryStream.stored, h.nextSequence]
      exact (BitVec.ofNat_add frames 1).symm
    recordsSinceAck := by simpa using hsince
    active := h.active
    hashed := fun _ => ⟨h₁, hbegin, hashUpdates_append hhashed hlast⟩
    begun := by simp [RecoveryStream.stored, hcalls, h.begun]
    cleared := by simp [RecoveryStream.stored, hcalls, h.cleared] }

/-- The acknowledgement behind the next chunk, and the count it leaves. -/
theorem StreamKept.ack (payload : Octets) (hashContext : η × List HashCall) :
    ∃ since, since = BitVec.ofNat 32 ((data.length + 1) % 8) ∧
      (if stream.recordsSinceAck + 1#32 = recoveryAckWindow then
          ((.ok, ⟨true, stream.nextSequence + 1#32, recoveryAckWindow⟩,
            { stream.stored payload hashContext with recordsSinceAck := 0#32 }) :
              Status × RecoveryAck × RecoveryStream (η × List HashCall))
        else (.ok, recoveryAckNone, stream.stored payload hashContext)) =
      (.ok, ackAfter (data.length + 1),
        { stream.stored payload hashContext with recordsSinceAck := since }) := by
  have hcomplete : stream.complete = false := by
    rw [RecoveryStream.Closed, not_or, not_or, Bool.not_eq_true] at hopen
    exact hopen.2.1
  have hframes : frames = data.length := by
    rw [h.taken, hcomplete]
    rfl
  have hseq : stream.nextSequence + 1#32 = BitVec.ofNat 32 (data.length + 1) := by
    rw [h.nextSequence, hframes, BitVec.ofNat_add]
  have hsince : stream.recordsSinceAck + 1#32 = BitVec.ofNat 32 (data.length % 8 + 1) := by
    rw [h.recordsSinceAck, BitVec.ofNat_add]
  refine ⟨_, rfl, ?_⟩
  rw [hsince, hseq, ackAfter]
  by_cases hack : (data.length + 1) % 8 = 0
  · rw [if_pos (ackWindow_reached.mpr hack), if_pos hack, hack]
  · rw [if_neg fun hc => hack (ackWindow_reached.mp hc), if_neg hack,
      show (data.length + 1) % 8 = data.length % 8 + 1 by omega, ← hsince]
    rfl

/-- COMPLETE is one more frame, and the hash context is cleared. -/
theorem StreamKept.completed {sum : Digest}
    (hfinish : ops.traced.finish stream.hashContext = (.ok, sum, hashContext)) :
    StreamKept ops h₀ initial digest (data ++ []) (frames + 1) { stream with
      hashContext := ops.traced.clear hashContext, hashActive := false
      nextSequence := stream.nextSequence + 1#32, complete := true } := by
  have hcomplete : stream.complete = false := by
    rw [RecoveryStream.Closed, not_or, not_or, Bool.not_eq_true] at hopen
    exact hopen.2.1
  rw [h.closed_iff, Bool.not_eq_false] at hopen
  have hcalls : hashContext.2 = stream.hashContext.2 ++ [.finish] :=
    (congrArg (·.2.2.2) hfinish).symm
  have hframes := h.taken
  rw [hcomplete, if_neg (by simp), Nat.add_zero] at hframes
  rw [List.append_nil]
  refine { h with
    taken := by simp [hframes], nextSequence := ?_, active := by simp
    hashed := fun hc => absurd hc (by simp), begun := ?_, cleared := ?_ }
  · rw [h.nextSequence]
    exact (BitVec.ofNat_add frames 1).symm
  · simp [HashOps.traced, hcalls, h.begun]
  · simp [HashOps.traced, hcalls, h.cleared, hopen]

omit hopen

/-- **A call** is refused by a closed stream, closes an open one, or takes a frame. -/
theorem StreamKept.call (call : StreamCall) :
    ∃ status ack stream', streamCall ops.traced stream call = (status, ack, stream') ∧
      StreamKept ops h₀ initial digest (data ++ (StreamEvent.data ⟨call, status, ack⟩).toList)
        (frames + if status = .ok then 1 else 0) stream' ∧
      (stream.Closed → stream' = stream ∧ status ≠ .ok) ∧
      (status ≠ .ok → stream'.Closed ∧ ack = recoveryAckNone) := by
  by_cases hopen : stream.Closed
  · have hsame : StreamKept ops h₀ initial digest (data ++ []) (frames + 0) stream := by
      rw [List.append_nil]
      exact h
    cases call with
    | accept frame payload =>
      exact ⟨_, _, _, recoveryStreamAccept_closed hopen, hsame, fun _ => ⟨rfl, by decide⟩,
        fun _ => ⟨hopen, rfl⟩⟩
    | complete frame payload =>
      exact ⟨.errState, recoveryAckNone, stream, by rw [streamCall, recoveryStreamComplete_closed hopen],
        hsame, fun _ => ⟨rfl, by decide⟩, fun _ => ⟨hopen, rfl⟩⟩
  · have hactive : stream.hashActive = true := by
      rw [← Bool.not_eq_false]
      exact fun hc => hopen (h.closed_iff.mpr hc)
    have hcleared : stream.hashContext.2.count .clear = 0 := by
      rw [h.cleared, if_pos hactive]
    -- whatever the hash operations did, the stream fails with one clear
    have hfailed : ∀ (call : StreamCall) status stream' contexts, status ≠ Status.ok →
        streamCall ops.traced stream call = (status, recoveryAckNone, stream') →
        stream.FailsTo ops.traced stream' contexts →
        (∀ context ∈ contexts, context.2.count .begin = 1 ∧ context.2.count .clear = 0) →
        ∃ status ack stream', streamCall ops.traced stream call = (status, ack, stream') ∧
          StreamKept ops h₀ initial digest (data ++ (StreamEvent.data ⟨call, status, ack⟩).toList)
            (frames + if status = .ok then 1 else 0) stream' ∧
          (stream.Closed → stream' = stream ∧ status ≠ .ok) ∧
          (status ≠ .ok → stream'.Closed ∧ ack = recoveryAckNone) := by
      rintro call status stream' contexts hne heq ⟨context, hmem, rfl⟩ hcontexts
      obtain ⟨hbegun, hclear⟩ := hcontexts context hmem
      obtain ⟨hkept, hclosed⟩ := h.fail hopen hbegun hclear
      refine ⟨status, _, _, heq, ?_, fun hc => absurd hc hopen, fun _ => ⟨hclosed, rfl⟩⟩
      rw [StreamEvent.data_of_failed (by exact hne), if_neg hne, Option.toList_none, List.append_nil]
      exact hkept
    cases call with
    | accept frame payload =>
      rcases recoveryStreamAccept_cases hopen with ⟨status, stream', hne, heq, hfails⟩ |
        ⟨hashContext, hupdate, hle, hpos, hlen, -, heq⟩
      · refine hfailed _ _ _ _ hne heq hfails ?_
        intro context hmem
        rcases List.mem_cons.mp hmem with rfl | hmem
        · exact ⟨h.begun, hcleared⟩
        · obtain rfl := List.mem_singleton.mp hmem
          simp [HashOps.traced, h.begun, hcleared]
      · obtain ⟨since, hsince, hack⟩ := h.ack hopen payload hashContext
        rw [hack] at heq
        exact ⟨_, _, _, heq, h.stored hopen hupdate hle hpos hlen hsince,
          fun hc => absurd hc hopen, fun hc => absurd rfl hc⟩
    | complete frame payload =>
      rcases recoveryStreamComplete_cases hopen with ⟨status, stream', hne, heq, hfails⟩ |
        ⟨hashContext, hfinish, hoffset, heq⟩
      · refine hfailed _ _ _ _ hne (by rw [streamCall, heq]) hfails ?_
        intro context hmem
        rcases List.mem_cons.mp hmem with rfl | hmem
        · exact ⟨h.begun, hcleared⟩
        · obtain rfl := List.mem_singleton.mp hmem
          simp [HashOps.traced, h.begun, hcleared]
      · exact ⟨.ok, recoveryAckNone, _, by rw [streamCall, heq], h.completed hopen hfinish,
          fun hc => absurd hc hopen, fun hc => absurd rfl hc⟩

omit h in
/-- A stream that `recoveryStreamInit` set up. -/
theorem recoveryStreamInit_kept {requestId : RequestId}
    (h : recoveryStreamInit ops.traced requestId initial digest (h₀, []) = (.ok, stream)) :
    StreamKept ops h₀ initial digest [] 0 stream := by
  rw [recoveryStreamInit] at h
  split_ifs at h with hargs
  · simp at h
  rw [not_or, not_or] at hargs
  split at h
  · rename_i context hbegin
    simp only [Prod.mk.injEq, true_and] at h
    subst h
    obtain ⟨hstatus, hcontext⟩ := Prod.mk.inj hbegin
    have hcalls : context.2 = [.begin] := (congrArg Prod.snd hcontext).symm
    exact ⟨rfl, rfl, rfl, by omega, rfl, rfl, (Nat.zero_min _).symm, Nat.zero_le _, rfl, rfl, rfl, rfl,
      fun _ => ⟨context.1, Prod.ext hstatus (congrArg Prod.fst hcontext), rfl⟩, by simp [hcalls],
      by simp [hcalls]⟩
  · rename_i hne _
    exact absurd (Prod.mk.inj h).1 hne

/-- **A run** of calls. -/
theorem StreamKept.calls {calls : List StreamCall} {events : List StreamEvent}
    (hrun : streamCalls ops.traced calls stream = (events, stream')) :
    StreamKept ops h₀ initial digest (data ++ acceptedData events) (frames + acceptedFrames events)
      stream' := by
  induction calls generalizing stream data frames events with
  | nil =>
    obtain ⟨rfl, rfl⟩ := Prod.mk.inj hrun
    rw [acceptedData, List.filterMap_nil, List.append_nil]
    exact h
  | cons call calls ih =>
    obtain ⟨status, ack, stream₁, hcall, hkept, -⟩ := h.call call
    rcases hrest : streamCalls ops.traced calls stream₁ with ⟨events₁, stream₂⟩
    rw [streamCalls, hcall] at hrun
    simp only [hrest, Prod.mk.injEq] at hrun
    obtain ⟨rfl, rfl⟩ := hrun
    have hdata : acceptedData (⟨call, status, ack⟩ :: events₁) =
        (StreamEvent.data ⟨call, status, ack⟩).toList ++ acceptedData events₁ := by
      cases hd : StreamEvent.data ⟨call, status, ack⟩ <;> simp [acceptedData, hd]
    have hframes : acceptedFrames (⟨call, status, ack⟩ :: events₁) =
        (if status = .ok then 1 else 0) + acceptedFrames events₁ := by
      by_cases hs : status = .ok <;> simp [acceptedFrames, hs, Nat.add_comm]
    rw [hdata, hframes, ← List.append_assoc, ← Nat.add_assoc]
    exact ih hkept hrest

omit h

/-- **The recovery stream under arbitrary frames.**  After a successful init and any calls:

* the pages hold the accepted payloads, and nothing behind them has been written;
* the counters are those of the accepted frames;
* an acknowledgement is asked for behind every eighth chunk;
* a call that fails ends the stream: later calls fail and change nothing;
* COMPLETE succeeds only with a whole image whose digest the hash operations found to be the
  expected one;
* one hash is begun, and cleared once when the stream has completed, failed or been reset. -/
theorem recovery_stream_history {requestId : RequestId} {s₀ s : RecoveryStream (η × List HashCall)}
    (hinit : recoveryStreamInit ops.traced requestId initial digest (h₀, []) = (.ok, s₀))
    {calls : List StreamCall} {events : List StreamEvent}
    (hrun : streamCalls ops.traced calls s₀ = (events, s)) :
    s.pages.take s.offset = (acceptedData events).flatten ∧
    s.pages.drop s.offset = initial.drop s.offset ∧
    s.offset = min (16384 * (acceptedData events).length) initial.length ∧
    s.nextSequence.toNat = acceptedFrames events ∧
    (∀ frame payload status ack s',
      recoveryStreamAccept ops.traced s frame payload = (status, ack, s') →
      ack = if status = .ok then ackAfter ((acceptedData events).length + 1) else recoveryAckNone) ∧
    (∀ call status ack s', streamCall ops.traced s call = (status, ack, s') → status ≠ .ok →
      ∀ later, ∃ status', status' ≠ .ok ∧
        streamCall ops.traced s' later = (status', recoveryAckNone, s')) ∧
    (∀ frame payload s', recoveryStreamComplete ops.traced s frame payload = (.ok, s') →
      s'.pages = (acceptedData events).flatten ∧ s'.pages.length = s'.imageSize ∧
      ∃ h h' h'', ops.begin h₀ = (.ok, h) ∧ hashUpdates ops h (acceptedData events) = some h' ∧
        ops.finish h' = (.ok, digest, h'')) ∧
    (s.complete = true ∨ s.failed = true →
      s.hashContext.2.count .begin = 1 ∧ s.hashContext.2.count .clear = 1) ∧
    (recoveryStreamReset ops.traced s).hashContext.2.count .begin = 1 ∧
      (recoveryStreamReset ops.traced s).hashContext.2.count .clear = 1 := by
  have hkept := (recoveryStreamInit_kept hinit).calls hrun
  rw [List.nil_append, Nat.zero_add] at hkept
  have hfilled := hkept.filled
  refine ⟨?_, ?_, hkept.offset, ?_, ?_, ?_, ?_, ?_, ?_⟩
  · rw [hkept.pages, List.take_append_of_le_length (by omega), List.take_of_length_le (by omega)]
  · rw [hkept.pages, List.drop_append, List.drop_of_length_le (by omega), List.nil_append, hfilled,
      Nat.sub_self, List.drop_zero]
  · have hchunks := hkept.chunks
    have hmost := chunkCount_le hkept.most
    rw [hkept.nextSequence, BitVec.toNat_ofNat, Nat.mod_eq_of_lt]
    rw [hkept.taken]
    split_ifs <;> omega
  · intro frame payload status ack s' haccept
    by_cases hclosed : s.Closed
    · rw [recoveryStreamAccept_closed hclosed] at haccept
      obtain ⟨rfl, rfl, -⟩ := haccept
      rfl
    · rcases recoveryStreamAccept_cases hclosed with ⟨status', stream', hne, heq, -⟩ |
        ⟨hashContext, -, -, -, -, -, heq⟩
      · rw [heq] at haccept
        obtain ⟨rfl, rfl, -⟩ := haccept
        rw [if_neg hne]
      · obtain ⟨since, -, hack⟩ := hkept.ack hclosed payload hashContext
        rw [heq, hack] at haccept
        obtain ⟨rfl, rfl, -⟩ := haccept
        rfl
  · intro call status ack s' hcall hne later
    obtain ⟨status₁, ack₁, s₁, hcall₁, hkept₁, -, hfailed⟩ := hkept.call call
    rw [hcall] at hcall₁
    obtain ⟨rfl, rfl, rfl⟩ := hcall₁
    obtain ⟨hclosed, -⟩ := hfailed hne
    obtain ⟨status₂, ack₂, s₂, hcall₂, -, hrefused, hfailed₂⟩ := hkept₁.call later
    obtain ⟨rfl, hne₂⟩ := hrefused hclosed
    obtain ⟨-, rfl⟩ := hfailed₂ hne₂
    exact ⟨status₂, hne₂, hcall₂⟩
  · intro frame payload s' hcomplete
    have hopen : ¬ s.Closed := by
      intro hclosed
      rw [recoveryStreamComplete_closed hclosed] at hcomplete
      simp at hcomplete
    rcases recoveryStreamComplete_cases hopen with ⟨status, stream', hne, heq, -⟩ |
      ⟨hashContext, hfinish, hoffset, heq⟩
    · rw [heq] at hcomplete
      exact absurd (Prod.mk.inj hcomplete).1 hne
    · rw [heq] at hcomplete
      obtain ⟨-, rfl⟩ := hcomplete
      -- a full offset leaves nothing of the initial pages
      have hpages : s.pages = (acceptedData events).flatten := by
        rw [hkept.pages, hoffset, hkept.size, List.drop_length, List.append_nil]
      rw [hkept.closed_iff, Bool.not_eq_false] at hopen
      obtain ⟨h, hbegin, hhashed⟩ := hkept.hashed hopen
      rw [hkept.expected] at hfinish
      refine ⟨hpages, ?_, h, s.hashContext.1, hashContext.1, hbegin, hhashed, ?_⟩
      · dsimp only
        rw [hpages, hfilled, hoffset]
      · obtain ⟨hstatus, hrest⟩ := Prod.mk.inj hfinish
        obtain ⟨hsum, hcontext⟩ := Prod.mk.inj hrest
        exact Prod.ext hstatus (Prod.ext hsum (congrArg Prod.fst hcontext))
  · intro hdone
    have hinactive : s.hashActive = false := hkept.closed_iff.mp (.inr hdone)
    refine ⟨hkept.begun, ?_⟩
    rw [hkept.cleared, hinactive]
    rfl
  · have hbegun := hkept.begun
    have hcleared := hkept.cleared
    simp only [recoveryStreamReset, recoveryStreamZero]
    by_cases hactive : s.hashActive = true
    · rw [if_pos hactive] at hcleared ⊢
      simp [HashOps.traced, hbegun, hcleared]
    · rw [if_neg hactive] at hcleared ⊢
      exact ⟨hbegun, hcleared⟩

end History

/-- Hash operations with a fixed digest. -/
def sampleStreamHash : HashOps Unit where
  begin _ := (.ok, ())
  update _ _ := (.ok, ())
  finish _ := (.ok, List.Vector.replicate 32 5#8, ())
  clear _ := ()

/-- An image of two octets in one chunk. -/
def sampleStreamCalls : List StreamCall :=
  [.accept (transferFrame (List.Vector.replicate 16 1#8) 2 0) [8#8, 9#8],
    .complete (transferFrame (List.Vector.replicate 16 1#8) 2 1) []]

theorem recovery_stream_history_sample :
    ∃ s₀ events s, recoveryStreamInit sampleStreamHash.traced (List.Vector.replicate 16 1#8) [0#8, 0#8]
        (List.Vector.replicate 32 5#8) ((), []) = (.ok, s₀) ∧
      streamCalls sampleStreamHash.traced sampleStreamCalls s₀ = (events, s) ∧
      events.map (·.status) = [.ok, .ok] ∧
      s.pages.take s.offset = (acceptedData events).flatten := by
  rcases hinit : recoveryStreamInit sampleStreamHash.traced (List.Vector.replicate 16 1#8) [0#8, 0#8]
    (List.Vector.replicate 32 5#8) ((), []) with ⟨status, s₀⟩
  obtain rfl : status = .ok := by
    have : (recoveryStreamInit sampleStreamHash.traced (List.Vector.replicate 16 1#8) [0#8, 0#8]
      (List.Vector.replicate 32 5#8) ((), [])).1 = .ok := by decide +kernel
    rwa [hinit] at this
  rcases hrun : streamCalls sampleStreamHash.traced sampleStreamCalls s₀ with ⟨events, s⟩
  refine ⟨s₀, events, s, rfl, hrun, ?_, (recovery_stream_history hinit hrun).1⟩
  have hstart : s₀ = (recoveryStreamInit sampleStreamHash.traced (List.Vector.replicate 16 1#8)
      [0#8, 0#8] (List.Vector.replicate 32 5#8) ((), [])).2 := by rw [hinit]
  have hevents : events = (streamCalls sampleStreamHash.traced sampleStreamCalls s₀).1 := by rw [hrun]
  rw [hevents, hstart]
  decide +kernel

end Pbns
