/-
The sequence checker of one stream of frames (`src/core/stream.c`).

`streamAccept_of_expected` and `streamAccept_of_not_expected` say that a frame is
accepted exactly when it is the expected one, and that a refusal leaves the stream
failed.  `streamHistory` is a stream with everything it has accepted since its start:

* `StreamHistory.Kept.offer` — what one offer keeps, accepted or refused;
* `StreamHistory.offers_failed` — a failed stream accepts nothing;
* `stream_acceptance` — what the accepted frames have in common, and the end of the stream at the
  first refusal.
-/
import Pbns.FrameTypes

namespace Pbns

open Octets Guard

def uint64Max : ℕ := 2 ^ 64 - 1
def uint32Max : BitVec 32 := 0xffffffff#32

/-- `pbns_stream_state`. -/
structure StreamState where
  service : ServiceId
  requestId : RequestId
  byteLimit : ℕ
  totalBytes : ℕ
  nextSequence : BitVec 32
  initialized : Bool
  complete : Bool
  failed : Bool
  deriving DecidableEq

/-- The zeroed `pbns_stream_state`. -/
def streamZero : StreamState :=
  ⟨serviceInvalid, List.Vector.replicate 16 0#8, 0, 0, 0#32, false, false, false⟩

def streamInit (service : ServiceId) (requestId : RequestId) (byteLimit : ℕ) : StreamState :=
  if serviceIsValid service = false then streamZero
  else { streamZero with service, requestId, byteLimit, initialized := true }

def streamReset (state : StreamState) : StreamState :=
  if state.initialized then
    { state with totalBytes := 0, nextSequence := 0#32, complete := false, failed := false }
  else state

/-- `validate_payload`: the status, and whether the type ends the stream. -/
def validatePayload (type : MessageType) (payload : Octets) : Status × Bool :=
  if type = messageRequest ∨ type = messageResponse then
    (if payload.length ≤ controlPayloadMax then .ok else .errLimit, false)
  else if type = messageData then
    (if payload.length ≤ dataPayloadMax then .ok else .errLimit, false)
  else if type = messageAck then
    (if payload.length ≠ ackPayloadSize then .errFormat
      else if readU32Be payload = 0#32 ∨ readU32Be (payload.drop 4) = 0#32 then .errFormat
      else .ok, false)
  else if type = messageError then
    (if payload.length ≤ controlPayloadMax then .ok else .errLimit, true)
  else if type = messageCancel ∨ type = messageComplete then
    (if payload.length = 0 then .ok else .errFormat, true)
  else (.errMessageType, false)

/-- The checks of `pbns_stream_accept` on a stream that is still open. -/
def streamChecks (state : StreamState) (frame : Frame) (payload : Octets) : Except Status Unit := do
  rejectIf (state.complete = true) .errState
  rejectIf (frame.service ≠ state.service) .errService
  rejectIf (frame.requestId ≠ state.requestId) .errState
  rejectIf (frame.flags ≠ 0#8) .errFormat
  rejectIf (frame.sequence ≠ state.nextSequence ∨ state.nextSequence = uint32Max) .errSequence
  (validatePayload frame.type payload).1.check
  rejectIf (state.byteLimit < state.totalBytes ∨ uint64Max - state.totalBytes < payload.length ∨
    state.byteLimit - state.totalBytes < payload.length) .errLimit

/-- The state behind an accepted frame. -/
def StreamState.advance (state : StreamState) (frame : Frame) (payload : Octets) : StreamState :=
  { state with
    totalBytes := state.totalBytes + payload.length
    nextSequence := state.nextSequence + 1#32
    complete := (validatePayload frame.type payload).2 }

def streamAccept (state : StreamState) (frame : Frame) (payload : Octets) : Status × StreamState :=
  if ¬ state.initialized ∨ state.failed then (.errState, state)
  else
    match streamChecks state frame payload with
    | .error status => (status, { state with failed := true })
    | .ok _ => (.ok, state.advance frame payload)

/-- The stream takes `frame` and `payload` next. -/
structure Expected (state : StreamState) (frame : Frame) (payload : Octets) : Prop where
  initialized : state.initialized = true
  notFailed : state.failed = false
  notComplete : state.complete = false
  service : frame.service = state.service
  requestId : frame.requestId = state.requestId
  flags : frame.flags = 0#8
  sequence : frame.sequence = state.nextSequence
  notExhausted : state.nextSequence ≠ uint32Max
  payloadOk : (validatePayload frame.type payload).1 = .ok
  fits : state.totalBytes + payload.length ≤ state.byteLimit ∧
    state.totalBytes + payload.length ≤ uint64Max

variable {state : StreamState} {frame : Frame} {payload : Octets}

theorem streamChecks_eq_ok (hi : state.initialized = true) (hf : state.failed = false)
    (ht : state.totalBytes ≤ uint64Max) :
    streamChecks state frame payload = .ok () ↔ Expected state frame payload := by
  simp only [streamChecks, rejectIf_bind_eq_ok, Status.check_bind_eq_ok, rejectIf_eq_ok]
  constructor
  · rintro ⟨h1, h2, h3, h4, h5, h6, h7⟩
    exact ⟨hi, hf, by simpa using h1, not_not.mp h2, not_not.mp h3, not_not.mp h4,
      by tauto, by tauto, h6, by omega⟩
  · rintro ⟨-, -, h1, h2, h3, h4, h5, h6, h7, h8⟩
    exact ⟨by simp [h1], not_not.mpr h2, not_not.mpr h3, not_not.mpr h4, by tauto, h7, by omega⟩

/-- **The expected frame is accepted.** -/
theorem streamAccept_of_expected (h : Expected state frame payload) :
    streamAccept state frame payload = (.ok, state.advance frame payload) := by
  have hcheck := (streamChecks_eq_ok h.initialized h.notFailed
    (Nat.le_trans (Nat.le_add_right _ _) h.fits.2)).mpr h
  rw [streamAccept, if_neg (by simp [h.initialized, h.notFailed]), hcheck]

/-- Any other frame is refused, and the stream is failed from then on. -/
theorem streamAccept_of_not_expected (hi : state.initialized = true) (hf : state.failed = false)
    (ht : state.totalBytes ≤ uint64Max) (h : ¬ Expected state frame payload) :
    ∃ status, status ≠ .ok ∧ streamAccept state frame payload
      = (status, { state with failed := true }) := by
  rw [streamAccept, if_neg (by simp [hi, hf])]
  rcases hc : streamChecks state frame payload with status | u
  · refine ⟨status, ?_, rfl⟩
    rintro rfl
    simp [streamChecks, bind_eq_error, rejectIf_eq_error, Status.check_ne_error_ok] at hc
  · exact absurd ((streamChecks_eq_ok hi hf ht).mp hc) h

theorem streamInit_of_valid {service : ServiceId} (hs : serviceIsValid service = true)
    (requestId : RequestId) (byteLimit : ℕ) : streamInit service requestId byteLimit
      = { streamZero with service, requestId, byteLimit, initialized := true } := by
  rw [streamInit, if_neg (by simp [hs])]

/-- The types behind which `validate_payload` reports the end of the stream. -/
def MessageType.EndsStream (type : MessageType) : Prop :=
  type = messageError ∨ type = messageCancel ∨ type = messageComplete

theorem validatePayload_ends (type : MessageType) (payload : Octets) :
    (validatePayload type payload).2 = true ↔ type.EndsStream := by
  simp only [validatePayload, MessageType.EndsStream, apply_ite Prod.snd]
  split_ifs with hrequest hdata hack herror hend
  · rcases hrequest with rfl | rfl <;> decide
  · subst hdata
    decide
  · subst hack
    decide
  · simp [herror]
  · simp [hend]
  · simp [herror, hend]

/-- What is offered to `pbns_stream_accept`: a frame, unless its pointer is null, and a payload,
unless the view has a length and no memory. -/
structure StreamOffer where
  frame : Option Frame
  payload : Option Octets

/-- A stream with the frames it has accepted, the first one first. -/
structure StreamHistory where
  accepted : List (Frame × Octets)
  state : StreamState

/-- `pbns_stream_accept` with its argument check. -/
def StreamState.offer (state : StreamState) (offer : StreamOffer) : Status × StreamState :=
  match offer.frame, offer.payload with
  | some frame, some payload => streamAccept state frame payload
  | _, _ => (.errArgument, state)

/-- One offer, and the note of what was accepted. -/
def StreamHistory.offer (h : StreamHistory) (offer : StreamOffer) : StreamHistory where
  accepted :=
    match offer.frame, offer.payload with
    | some frame, some payload =>
      if (streamAccept h.state frame payload).1 = .ok then h.accepted ++ [(frame, payload)]
      else h.accepted
    | _, _ => h.accepted
  state := (h.state.offer offer).2

/-- Everything that is offered to a stream since `pbns_stream_init`. -/
def streamHistory (service : ServiceId) (requestId : RequestId) (byteLimit : ℕ)
    (offers : List StreamOffer) : StreamHistory :=
  offers.foldl StreamHistory.offer ⟨[], streamInit service requestId byteLimit⟩

/-- What holds between the stream and the frames it has accepted. -/
structure StreamHistory.Kept (service : ServiceId) (requestId : RequestId) (byteLimit : ℕ)
    (h : StreamHistory) : Prop where
  initialized : h.state.initialized = true
  sameService : h.state.service = service
  sameRequestId : h.state.requestId = requestId
  sameLimit : h.state.byteLimit = byteLimit
  next : h.state.nextSequence.toNat = h.accepted.length
  numbered : ∀ i (hi : i < h.accepted.length), h.accepted[i].1.sequence.toNat = i
  carried : ∀ f ∈ h.accepted, f.1.service = service ∧ f.1.requestId = requestId ∧
    f.1.flags = 0#8 ∧ f.1.sequence ≠ uint32Max
  total : h.state.totalBytes = (h.accepted.map (·.2.length)).sum
  within : h.state.totalBytes ≤ byteLimit ∧ h.state.totalBytes ≤ uint64Max
  ends : ∀ i (hi : i < h.accepted.length), h.accepted[i].1.type.EndsStream →
    i + 1 = h.accepted.length ∧ h.state.complete = true

section History

variable {service : ServiceId} {requestId : RequestId} {byteLimit : ℕ} {h : StreamHistory}
  {frame : Frame} {payload : Octets}

variable (hk : h.Kept service requestId byteLimit)

include hk

/-- What `pbns_stream_accept` does with a frame: accept the expected one, or refuse and fail. -/
theorem StreamHistory.Kept.offer_cases (frame : Frame) (payload : Octets) :
    (Expected h.state frame payload ∧
      (streamAccept h.state frame payload).1 = .ok ∧
      h.offer ⟨some frame, some payload⟩
        = ⟨h.accepted ++ [(frame, payload)], h.state.advance frame payload⟩) ∨
    ((streamAccept h.state frame payload).1 ≠ .ok ∧
      h.offer ⟨some frame, some payload⟩ = ⟨h.accepted, { h.state with failed := true }⟩) := by
  by_cases hexp : Expected h.state frame payload
  · have hacc := streamAccept_of_expected hexp
    exact .inl ⟨hexp, by rw [hacc],
      by simp only [StreamHistory.offer, StreamState.offer, hacc, if_true]⟩
  · right
    by_cases hf : h.state.failed = true
    · -- a failed stream refuses before it looks at the frame, and is failed already
      have hacc : streamAccept h.state frame payload = (.errState, h.state) := by
        rw [streamAccept, if_pos (.inr hf)]
      have hstate : { h.state with failed := true } = h.state := by rw [← hf]
      rw [hstate, hacc]
      refine ⟨by simp, ?_⟩
      simp only [StreamHistory.offer, StreamState.offer, hacc]
      simp
    · obtain ⟨status, hne, hacc⟩ := streamAccept_of_not_expected hk.initialized
        (by simpa using hf) hk.within.2 hexp
      rw [hacc]
      exact ⟨hne, by simp only [StreamHistory.offer, StreamState.offer, hacc, if_neg hne]⟩

theorem StreamHistory.Kept.accept (hexp : Expected h.state frame payload) :
    StreamHistory.Kept service requestId byteLimit
      ⟨h.accepted ++ [(frame, payload)], h.state.advance frame payload⟩ := by
  have hlast : h.state.nextSequence.toNat + 1 < 2 ^ 32 := by
    have hne := hexp.notExhausted
    unfold uint32Max at hne
    bv_omega
  -- a frame in front does not end the stream, or this one would not have been accepted
  have hopen : ∀ i (hi : i < h.accepted.length), ¬ h.accepted[i].1.type.EndsStream :=
    fun i hi hends => Bool.false_ne_true (hexp.notComplete.symm.trans (hk.ends i hi hends).2)
  refine ⟨hk.initialized, hk.sameService, hk.sameRequestId, hk.sameLimit, ?_, fun i hi => ?_, ?_, ?_,
    ⟨hk.sameLimit ▸ hexp.fits.1, hexp.fits.2⟩, fun i hi hends => ?_⟩
  · show (h.state.nextSequence + 1#32).toNat = (h.accepted ++ [(frame, payload)]).length
    rw [BitVec.toNat_add, List.length_append, ← hk.next]
    exact Nat.mod_eq_of_lt hlast
  · have := hk.numbered i
    have := hexp.sequence
    have := hk.next
    grind
  · refine List.forall_mem_append.mpr ⟨hk.carried, List.forall_mem_singleton.mpr ?_⟩
    exact ⟨hexp.service.trans hk.sameService, hexp.requestId.trans hk.sameRequestId, hexp.flags,
      hexp.sequence ▸ hexp.notExhausted⟩
  · show h.state.totalBytes + payload.length = _
    rw [hk.total, List.map_append, List.sum_append]
    rfl
  · have := hopen i
    have := validatePayload_ends frame.type payload
    simp only [StreamState.advance]
    grind

theorem StreamHistory.Kept.offer (offer : StreamOffer) :
    (h.offer offer).Kept service requestId byteLimit := by
  rcases offer with ⟨_ | frame, _ | payload⟩
  · exact hk
  · exact hk
  · exact hk
  · rcases hk.offer_cases frame payload with ⟨hexp, -, heq⟩ | ⟨-, heq⟩
    · rw [heq]
      exact hk.accept hexp
    · rw [heq]
      exact { hk with }

theorem StreamHistory.Kept.offers (offers : List StreamOffer) :
    (offers.foldl StreamHistory.offer h).Kept service requestId byteLimit := by
  induction offers generalizing h with
  | nil => exact hk
  | cons offer offers ih => exact ih (hk.offer offer)

omit hk

theorem streamHistory_kept (hs : serviceIsValid service = true) (offers : List StreamOffer) :
    (streamHistory service requestId byteLimit offers).Kept service requestId byteLimit := by
  refine StreamHistory.Kept.offers ?_ offers
  rw [streamInit_of_valid hs]
  exact ⟨rfl, rfl, rfl, rfl, rfl, by simp, by simp, rfl, by simp [streamZero], by simp⟩

theorem streamHistory_append (offers later : List StreamOffer) :
    streamHistory service requestId byteLimit (offers ++ later)
      = later.foldl StreamHistory.offer (streamHistory service requestId byteLimit offers) :=
  List.foldl_append

/-- A failed stream accepts nothing, whatever it is offered. -/
theorem StreamHistory.offer_failed (hf : h.state.failed = true) (offer : StreamOffer) :
    h.offer offer = h := by
  rcases offer with ⟨_ | frame, _ | payload⟩
  · rfl
  · rfl
  · rfl
  · have hacc : streamAccept h.state frame payload = (.errState, h.state) := by
      rw [streamAccept, if_pos (.inr hf)]
    simp [StreamHistory.offer, StreamState.offer, hacc]

theorem StreamHistory.offers_failed (hf : h.state.failed = true) (offers : List StreamOffer) :
    offers.foldl StreamHistory.offer h = h := by
  induction offers with
  | nil => rfl
  | cons offer offers ih => rw [List.foldl_cons, offer_failed hf, ih]

end History

/-- **Acceptance bounds everything.**  The frames a stream has accepted are numbered from zero,
carry its service and its number, fit its limit as a whole, and nothing is behind the one that
ends the stream.  The first frame that is refused is the end of it: the stream is failed and
accepts nothing any more. -/
theorem stream_acceptance {service : ServiceId} (hs : serviceIsValid service = true)
    (requestId : RequestId) (byteLimit : ℕ) (offers : List StreamOffer) :
    let h := streamHistory service requestId byteLimit offers
    (∀ i (hi : i < h.accepted.length), h.accepted[i].1.sequence.toNat = i) ∧
    (∀ f ∈ h.accepted, f.1.service = service ∧ f.1.requestId = requestId ∧ f.1.flags = 0#8 ∧
      f.1.sequence ≠ uint32Max) ∧
    h.state.totalBytes = (h.accepted.map (·.2.length)).sum ∧
    (h.state.totalBytes ≤ byteLimit ∧ h.state.totalBytes < 2 ^ 64) ∧
    (∀ i (hi : i < h.accepted.length), h.accepted[i].1.type.EndsStream →
      i + 1 = h.accepted.length) ∧
    ∀ frame payload, (streamAccept h.state frame payload).1 ≠ .ok → ∀ later,
      (streamHistory service requestId byteLimit
        (offers ++ ⟨some frame, some payload⟩ :: later)).accepted = h.accepted ∧
      (streamHistory service requestId byteLimit
        (offers ++ ⟨some frame, some payload⟩ :: later)).state.failed = true := by
  intro h
  have hk : h.Kept service requestId byteLimit := streamHistory_kept hs offers
  have hmax : h.state.totalBytes < 2 ^ 64 := by
    have := hk.within.2
    rw [uint64Max] at this
    omega
  refine ⟨hk.numbered, hk.carried, hk.total, ⟨hk.within.1, hmax⟩,
    fun i hi hends => (hk.ends i hi hends).1, ?_⟩
  intro frame payload hrefused later
  have hoffer : h.offer ⟨some frame, some payload⟩ = ⟨h.accepted, { h.state with failed := true }⟩ := by
    rcases hk.offer_cases frame payload with ⟨-, hok, -⟩ | ⟨-, heq⟩
    · exact absurd hok hrefused
    · exact heq
  have hrest : streamHistory service requestId byteLimit (offers ++ ⟨some frame, some payload⟩ :: later)
      = ⟨h.accepted, { h.state with failed := true }⟩ := by
    rw [streamHistory_append, List.foldl_cons, hoffer]
    exact StreamHistory.offers_failed rfl later
  rw [hrest]
  exact ⟨rfl, rfl⟩

/-- A frame of one octet for the stream of time requests. -/
def sampleOffer (sequence : BitVec 32) : StreamOffer :=
  ⟨some ⟨serviceTrustedTime, messageData, 0#8, List.Vector.replicate 16 1#8, sequence⟩, some [7#8]⟩

/-- The second of two frames skips a number. -/
theorem stream_acceptance_sample :
    let h := streamHistory serviceTrustedTime (List.Vector.replicate 16 1#8) 8
      [sampleOffer 0#32, sampleOffer 2#32]
    h.accepted.length = 1 ∧ h.state.failed = true ∧ h.state.totalBytes = 1 :=
  ⟨by decide, by decide, (stream_acceptance (by decide) _ _ _).2.2.1.trans (by decide)⟩

end Pbns
