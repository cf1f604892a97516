/-
The error of a handler on its way to the client: `sendError`, `sanitizeDetail` and
`sendErrorFrame` of `gateway/internal/server/server.go`, and the broker's sessions at the other
end.

* `protocolError_sent` — what becomes of the code and the detail;
* `Stream.sendFrames_ok`, `Stream.sendErrorFrame_ok` — the ERROR takes the number behind the
  handler's frames;
* `bulkReads`, `requestReads`, `uploadReads` — each kind of session returns the code;
* `remote_error_understood` — the two ends together.
-/
import Pbns.ErrorAnswer
import Pbns.RecoveryHandler

namespace Pbns.Server

open Octets Guard

/-! ### The gateway's side -/

/-- The `*ProtocolError` that `errors.As` finds in the error of a handler.  A Go string is any
octets. -/
structure SuppliedError where
  code : BitVec 64
  detail : Octets
  deriving DecidableEq

/-- `errorPayload` -/
structure ErrorPayload where
  code : ℕ
  service : ℕ
  detail : Octets

/-- `utf8.ValidString`, and `Marshal` in the canonical mode. -/
structure ErrorLibraries where
  validString : Octets → Bool
  marshal : ErrorPayload → Option Octets

structure ErrorLibraries.Documented (lib : ErrorLibraries) : Prop where
  validString : ∀ s, lib.validString s = true ↔ Utf8.WellFormed s
  marshal : ∀ payload : ErrorPayload, Utf8.WellFormed payload.detail →
    lib.marshal payload = some (encodeRemoteError payload.code payload.service payload.detail)

def maxErrorDetail : ℕ := 256

def statusCrypto : BitVec 64 := 13#64

/-- The text "service failure". -/
def serviceFailure : Octets :=
  [0x73#8, 0x65#8, 0x72#8, 0x76#8, 0x69#8, 0x63#8, 0x65#8, 0x20#8,
    0x66#8, 0x61#8, 0x69#8, 0x6c#8, 0x75#8, 0x72#8, 0x65#8]

inductive SendFailure
  | outOfRange
  | marshal
  | stream (err : Error)
  deriving DecidableEq

section Send

variable (lib : ErrorLibraries)

/-- The loop of `sanitizeDetail` from the first `n` octets of `detail` on; `none` is the slice
that the empty string does not have. -/
def truncateDetail (detail : Octets) : ℕ → Option Octets
  | 0 => if lib.validString [] then some [] else none
  | n + 1 =>
    if lib.validString (detail.take (n + 1)) then some (detail.take (n + 1))
    else truncateDetail detail n

def sanitizeDetail (detail : Octets) : Option Octets :=
  if detail = [] ∨ lib.validString detail = false then some serviceFailure
  else if detail.length ≤ maxErrorDetail then some detail
  else truncateDetail lib detail maxErrorDetail

/-- The code and the detail `sendError` settles on. -/
def protocolError : Option SuppliedError → Option (BitVec 64 × Octets)
  | some supplied =>
    if 1#64 ≤ supplied.code ∧ supplied.code ≤ 22#64 then
      (sanitizeDetail lib supplied.detail).map fun detail => (supplied.code, detail)
    else some (statusCrypto, serviceFailure)
  | none => some (statusCrypto, serviceFailure)

def Stream.writeOutboundFrameLocked (stream : Stream) (frame : Wire.Frame) (encoded : Octets) :
    Except Error (Octets × Stream) := do
  rejectIf (stream.outboundExhausted ∨ frame.sequence = uint32Max) .streamSequenceOverflow
  .ok (encoded, stream.sent frame)

def Stream.sendErrorFrame (stream : Stream) (frame : Wire.Frame) : Except Error (Octets × Stream) := do
  stream.validateOutboundFrame frame
  rejectIf (stream.outboundExhausted ∨ stream.outboundSequence = uint32Max) .streamSequenceOverflow
  let frame := { frame with sequence := stream.outboundSequence }
  let encoded ← ofWire (Wire.encode frame)
  let _ ← ofWire (Wire.decode stream.validator encoded)
  stream.writeOutboundFrameLocked frame encoded

def ofStream {α : Type} : Except Error α → Except SendFailure α
  | .ok a => .ok a
  | .error err => .error (.stream err)

/-- `sendError`: the octets handed to `writeAll`, and the stream once they are written. -/
def Stream.sendError (stream : Stream) (request : Frame) (handlerError : Option SuppliedError) :
    Except SendFailure (Octets × Stream) := do
  let (code, detail) ← orReject .outOfRange (protocolError lib handlerError)
  let payload ← orReject .marshal (lib.marshal ⟨code.toNat, request.service.toNat, detail⟩)
  ofStream (stream.sendErrorFrame
    ⟨⟨request.service, messageError, 0#8, request.requestId, 0#32⟩, payload⟩)

/-- The frames a handler sends, one after the other. -/
def Stream.sendFrames : Stream → List Wire.Frame → Except Error (List Octets × Stream)
  | stream, [] => .ok ([], stream)
  | stream, frame :: frames => do
    let (record, stream) ← stream.send frame
    let (records, stream) ← stream.sendFrames frames
    .ok (record :: records, stream)

end Send

/-! ### The detail -/

/-- The supplied code is one the client knows. -/
def SuppliedError.InRange (e : SuppliedError) : Prop := 1 ≤ e.code.toNat ∧ e.code.toNat ≤ 22

instance (e : SuppliedError) : Decidable e.InRange := by
  unfold SuppliedError.InRange
  infer_instance

/-- The code of a handler's error, as the client should see it. -/
def sentCode : Option SuppliedError → ℕ
  | some e => if e.InRange then e.code.toNat else 13
  | none => 13

/-- What the client should see of the detail. -/
structure DetailSent (handlerError : Option SuppliedError) (detail : Octets) : Prop where
  wellFormed : Utf8.WellFormed detail
  length : 1 ≤ detail.length ∧ detail.length ≤ 256
  original : ∀ e, handlerError = some e → e.InRange → e.detail ≠ [] → Utf8.WellFormed e.detail →
    e.detail.length ≤ 256 → detail = e.detail
  shortened : ∀ e, handlerError = some e → e.InRange → Utf8.WellFormed e.detail →
    256 < e.detail.length → ∃ k ≤ 3, detail = e.detail.take (256 - k)
  fixed : (∀ e, handlerError = some e → e.InRange → e.detail ≠ [] → ¬ Utf8.WellFormed e.detail) →
    detail = serviceFailure

section Detail

variable {lib : ErrorLibraries}

/-- The loop stops at the first well-formed beginning it comes to. -/
theorem truncateDetail_of_wellFormed (hlib : lib.Documented) {detail : Octets} {n k : ℕ} (hk : k ≤ n)
    (h : Utf8.WellFormed (detail.take (n - k))) : ∃ j ≤ k,
      truncateDetail lib detail n = some (detail.take (n - j)) ∧
      Utf8.WellFormed (detail.take (n - j)) := by
  induction n generalizing k with
  | zero =>
    have hnil : lib.validString [] = true := (hlib.validString _).mpr .nil
    exact ⟨0, Nat.zero_le _, by simp [truncateDetail, hnil], by simpa using Utf8.WellFormed.nil⟩
  | succ n ih =>
    rw [truncateDetail]
    by_cases hvalid : lib.validString (detail.take (n + 1)) = true
    · exact ⟨0, Nat.zero_le _, if_pos hvalid, (hlib.validString _).mp hvalid⟩
    · -- the whole piece is not well formed, so the one we know of is shorter
      rw [if_neg hvalid]
      have hpos : k ≠ 0 := by
        rintro rfl
        exact hvalid ((hlib.validString _).mpr h)
      obtain ⟨j, hj, heq, hfront⟩ := ih (k := k - 1) (by omega) (by
        rwa [show n - (k - 1) = n + 1 - k by omega])
      have hsame : n + 1 - (j + 1) = n - j := by omega
      exact ⟨j + 1, by omega, by rw [hsame]; exact heq, by rwa [hsame]⟩

theorem serviceFailure_wellFormed : Utf8.WellFormed serviceFailure :=
  utf8IsValid_iff.mp (by decide)

theorem inRange_iff {e : SuppliedError} : 1#64 ≤ e.code ∧ e.code ≤ 22#64 ↔ e.InRange := by
  rw [BitVec.le_def, BitVec.le_def]
  rfl

theorem detailSent_fixed {handlerError : Option SuppliedError}
    (h : ∀ e, handlerError = some e → e.InRange → e.detail ≠ [] → ¬ Utf8.WellFormed e.detail) :
    DetailSent handlerError serviceFailure where
  wellFormed := serviceFailure_wellFormed
  length := by decide
  original := fun e he hrange hne hvalid _ => absurd hvalid (h e he hrange hne)
  shortened := fun e he hrange hvalid hlong => absurd hvalid (h e he hrange (by
    rintro hnil
    rw [hnil] at hlong
    exact absurd hlong (by simp)))
  fixed := fun _ => rfl

/-- **What becomes of the detail.** -/
theorem protocolError_sent (hlib : lib.Documented) (handlerError : Option SuppliedError) :
    ∃ code detail, protocolError lib handlerError = some (code, detail) ∧
      code.toNat = sentCode handlerError ∧ DetailSent handlerError detail := by
  cases handlerError with
  | none => exact ⟨statusCrypto, serviceFailure, rfl, rfl, detailSent_fixed (by simp)⟩
  | some e =>
    by_cases hrange : e.InRange
    · rw [protocolError, if_pos (inRange_iff.mpr hrange), sentCode, if_pos hrange]
      by_cases hfixed : e.detail = [] ∨ lib.validString e.detail = false
      · refine ⟨e.code, serviceFailure, by rw [sanitizeDetail, if_pos hfixed]; rfl, rfl,
          detailSent_fixed ?_⟩
        rintro _ ⟨⟩ - hne hvalid
        rw [← hlib.validString] at hvalid
        rcases hfixed with hnil | hbad
        · exact hne hnil
        · rw [hbad] at hvalid
          exact absurd hvalid (by decide)
      rw [not_or, Bool.not_eq_false, hlib.validString] at hfixed
      have hpass : ¬ (e.detail = [] ∨ lib.validString e.detail = false) := by
        rw [not_or, Bool.not_eq_false, hlib.validString]
        exact hfixed
      have hlen := List.length_pos_iff.mpr hfixed.1
      rw [sanitizeDetail, if_neg hpass]
      by_cases hshort : e.detail.length ≤ maxErrorDetail
      · refine ⟨e.code, e.detail, by rw [if_pos hshort]; rfl, rfl, hfixed.2, ⟨hlen, hshort⟩, ?_, ?_, ?_⟩
        · rintro _ ⟨⟩ - - - -
          rfl
        · rintro _ ⟨⟩ - - hlong
          exact absurd hshort (Nat.not_le.mpr hlong)
        · exact fun h => absurd hfixed.2 (h e rfl hrange hfixed.1)
      · have hlong : 256 < e.detail.length := Nat.not_le.mp hshort
        obtain ⟨k, hk, -, hfront⟩ := hfixed.2.take (n := maxErrorDetail) (Nat.le_of_lt hlong)
        obtain ⟨j, hj, heq, hcut⟩ := truncateDetail_of_wellFormed hlib
          (Nat.le_trans hk (by decide)) hfront
        have htake : (e.detail.take (maxErrorDetail - j)).length = 256 - j := by
          rw [List.length_take]
          exact Nat.min_eq_left (by unfold maxErrorDetail; omega)
        refine ⟨e.code, e.detail.take (maxErrorDetail - j), by rw [if_neg hshort, heq]; rfl, rfl, hcut,
          by rw [htake]; omega, ?_, ?_, ?_⟩
        · rintro _ ⟨⟩ - - - hle
          exact absurd hle (Nat.not_le.mpr hlong)
        · rintro _ ⟨⟩ - - -
          exact ⟨j, by omega, rfl⟩
        · exact fun h => absurd hfixed.2 (h e rfl hrange hfixed.1)
    · rw [protocolError, if_neg (mt inRange_iff.mp hrange), sentCode, if_neg hrange]
      refine ⟨statusCrypto, serviceFailure, rfl, rfl, detailSent_fixed ?_⟩
      rintro _ ⟨⟩ hin
      exact absurd hin hrange

theorem sentCode_bounds (handlerError : Option SuppliedError) :
    1 ≤ sentCode handlerError ∧ sentCode handlerError ≤ 22 := by
  rcases handlerError with _ | e
  · decide
  · rw [sentCode]
    split_ifs with h
    · exact h
    · decide

end Detail

/-! ### The number of the ERROR -/

/-- What goes over the wire for a frame. -/
def recordOf (frame : Wire.Frame) : Octets := stuffed frame.toFrame frame.payload ++ [0#8]

/-- The ERROR behind `n` frames of the stream. -/
def errorFrame (request : Frame) (n : ℕ) (payload : Octets) : Wire.Frame :=
  ⟨⟨request.service, messageError, 0#8, request.requestId, BitVec.ofNat 32 n⟩, payload⟩

section Numbers

variable {stream stream' : Stream} {frame : Wire.Frame}

theorem ofWire_eq_ok {α : Type} {x : Except Wire.Error α} {a : α} :
    ofWire x = .ok a ↔ x = .ok a := by
  cases x <;> simp [ofWire]

theorem ofNat_ne_max {n : ℕ} (h : n < 2 ^ 32 - 2) :
    BitVec.ofNat 32 n ≠ uint32Max ∧ BitVec.ofNat 32 n ≠ uint32Max - 1#32 := by
  have hn : (BitVec.ofNat 32 n).toNat = n := by
    rw [BitVec.toNat_ofNat]
    exact Nat.mod_eq_of_lt (by omega)
  constructor <;> intro heq <;> rw [heq] at hn <;> rw [← hn] at h <;> exact absurd h (by decide)

/-- A frame with a small number moves the stream on by one. -/
theorem Stream.send_ok {record : Octets} {n : ℕ} (hn : n < 2 ^ 32 - 2)
    (hseq : frame.sequence = BitVec.ofNat 32 n) (h : stream.send frame = .ok (record, stream')) :
    record = recordOf frame ∧
      stream' = { stream with outboundSequence := BitVec.ofNat 32 (n + 1) } := by
  rw [Stream.send] at h
  obtain ⟨-, -, h⟩ := bind_eq_ok.mp h
  obtain ⟨encoded, henc, h⟩ := bind_eq_ok.mp h
  obtain ⟨-, -, h⟩ := bind_eq_ok.mp h
  obtain ⟨-, h⟩ := rejectIf_bind_eq_ok.mp h
  obtain ⟨rfl, rfl⟩ := Prod.mk.inj (Except.ok.inj h)
  refine ⟨(Wire.encode_eq_ok.mp (ofWire_eq_ok.mp henc)).2, ?_⟩
  rw [Stream.sent, hseq, if_neg (ofNat_ne_max hn).2, BitVec.ofNat_add]

/-- **The frames of a handler**, numbered in order, leave the stream at the next number. -/
theorem Stream.sendFrames_ok {frames : List Wire.Frame} {sent : List Octets} {k : ℕ}
    (hseq : ∀ i frame, frames[i]? = some frame → frame.sequence = BitVec.ofNat 32 (k + i))
    (hcount : k + frames.length < 2 ^ 32 - 2) (hnext : stream.outboundSequence = BitVec.ofNat 32 k)
    (h : stream.sendFrames frames = .ok (sent, stream')) :
    sent = frames.map recordOf ∧
      stream' = { stream with outboundSequence := BitVec.ofNat 32 (k + frames.length) } := by
  induction frames generalizing stream sent k with
  | nil =>
    obtain ⟨rfl, rfl⟩ := Prod.mk.inj (Except.ok.inj h)
    exact ⟨rfl, by rw [List.length_nil, Nat.add_zero, ← hnext]⟩
  | cons frame frames ih =>
    rw [List.length_cons] at hcount
    rw [Stream.sendFrames] at h
    obtain ⟨⟨record, stream₁⟩, hfirst, h⟩ := bind_eq_ok.mp h
    obtain ⟨⟨records, stream₂⟩, hrest, h⟩ := bind_eq_ok.mp h
    obtain ⟨rfl, rfl⟩ := Prod.mk.inj (Except.ok.inj h)
    obtain ⟨rfl, rfl⟩ := Stream.send_ok (n := k) (by omega)
      (hseq 0 frame (by rw [List.getElem?_cons_zero])) hfirst
    obtain ⟨rfl, rfl⟩ := ih (k := k + 1) (fun i frame hi => by
      rw [hseq (i + 1) frame (by rwa [List.getElem?_cons_succ])]
      congr 1
      omega) (by omega) rfl hrest
    refine ⟨rfl, ?_⟩
    rw [List.length_cons, show k + 1 + frames.length = k + (frames.length + 1) by omega]

/-- **The ERROR takes the next number**, and is written as soon as the server's own decoder
takes it. -/
theorem Stream.sendErrorFrame_ok (stream : Stream) (request : Frame) (payload : Octets) {n : ℕ}
    (hn : n < 2 ^ 32 - 2) (hnext : stream.outboundSequence = BitVec.ofNat 32 n)
    (hopen : stream.outboundExhausted = false) (hservice : stream.service = request.service)
    (hid : stream.requestId = request.requestId) (record : Octets) :
    (∃ stream', stream.sendErrorFrame
        ⟨⟨request.service, messageError, 0#8, request.requestId, 0#32⟩, payload⟩
          = .ok (record, stream')) ↔
      record = recordOf (errorFrame request n payload) ∧
        Admissible defaultLimits (errorFrame request n payload).toFrame payload ∧
        ∃ frame, Wire.decode stream.validator record = .ok frame := by
  have hmax := (ofNat_ne_max hn).1
  rw [Stream.sendErrorFrame, Stream.validateOutboundFrame,
    rejectIf_bind_of_not (by simp [hservice, hid, show messageError ≠ messageRequest by decide]),
    rejectIf_bind_of_not (by simp [hopen, hnext, hmax])]
  constructor
  · rintro ⟨stream', h⟩
    obtain ⟨encoded, henc, h⟩ := bind_eq_ok.mp h
    obtain ⟨frame, hdec, h⟩ := bind_eq_ok.mp h
    rw [Stream.writeOutboundFrameLocked] at h
    obtain ⟨-, h⟩ := rejectIf_bind_eq_ok.mp h
    obtain ⟨rfl, -⟩ := Prod.mk.inj (Except.ok.inj h)
    have hwire := Wire.encode_eq_ok.mp (ofWire_eq_ok.mp henc)
    rw [hnext] at hwire
    exact ⟨hwire.2, hwire.1, frame, ofWire_eq_ok.mp hdec⟩
  · rintro ⟨rfl, hadm, frame, hdec⟩
    have henc : Wire.encode (errorFrame request n payload)
        = .ok (recordOf (errorFrame request n payload)) := Wire.encode_eq_ok.mpr ⟨hadm, rfl⟩
    rw [hnext]
    change ∃ stream', (ofWire (Wire.encode (errorFrame request n payload)) >>= _) = _
    rw [henc]
    simp only [ofWire, bind_ok, hdec]
    rw [Stream.writeOutboundFrameLocked, rejectIf_bind_of_not (by simp [hopen, hmax])]
    exact ⟨_, rfl⟩

theorem ofStream_eq_ok {α : Type} {x : Except Error α} {a : α} :
    ofStream x = .ok a ↔ x = .ok a := by
  cases x <;> simp [ofStream]

/-- With the code and the detail settled, `sendError` is the frame and its way out. -/
theorem Stream.sendError_eq {lib : ErrorLibraries} (hlib : lib.Documented) (stream : Stream)
    (request : Frame) {handlerError : Option SuppliedError} {code : BitVec 64} {detail : Octets}
    (hpick : protocolError lib handlerError = some (code, detail)) (h : Utf8.WellFormed detail) :
    stream.sendError lib request handlerError = ofStream (stream.sendErrorFrame
      ⟨⟨request.service, messageError, 0#8, request.requestId, 0#32⟩,
        encodeRemoteError code.toNat request.service.toNat detail⟩) := by
  have hmarshal := hlib.marshal ⟨code.toNat, request.service.toNat, detail⟩ h
  rw [Stream.sendError, hpick]
  simp only [orReject, bind_ok]
  rw [hmarshal]
  rfl

end Numbers

end Pbns.Server

namespace Pbns

open Octets Guard Server

/-! ### The client's side -/

/-- A broker that any calls have left, in any world. -/
inductive Broker.Used : Broker → Prop
  | calls {τ δ : Type} {ops : SessionOps τ} {q : Qcbor δ} {fuel : ℕ} {storage : BrokerStorage}
      {receiveData rawScratch decoded : Octets} {b₀ b : Broker} {v₀ v : τ}
      {calls : List BrokerCall} {log : List TransportCall}
      (hinit : brokerInitOver storage receiveData rawScratch decoded = .ok b₀)
      (hhistory : brokerCalls ops.traced q fuel calls b₀ (v₀, []) = some (b, v, log)) :
      Broker.Used b

theorem Broker.Used.ready {b : Broker} (h : b.Used) : ∃ b₀ log, b₀.Fresh ∧
    0 < b₀.storage.receiveCap ∧ (b.initialized = true → b.opened = false → Ready b₀ b log) := by
  obtain ⟨hinit, hhistory⟩ := h
  rename_i b₀ v₀ v calls log
  have hb₀ := brokerInitOver_fresh hinit
  have hsettled := Settled.calls _ _ hb₀ (.untouched rfl rfl) hhistory
  refine ⟨b₀, log, hb₀, ?_, fun hi ho => hsettled.ready hi ho⟩
  rw [brokerInitOver] at hinit
  obtain ⟨b₁, hb₁, hinit⟩ := bind_eq_ok.mp hinit
  obtain ⟨hvalid, hb₁⟩ := rejectIf_bind_eq_ok.mp hb₁
  obtain rfl := Except.ok.inj hb₁
  obtain rfl := Except.ok.inj hinit
  rw [Bool.not_eq_false, storageIsValid] at hvalid
  simp only [Bool.and_eq_true, decide_eq_true_eq] at hvalid
  exact hvalid.1.2

/-- A broker that may begin a session is as the bulk calls need it. -/
theorem Ready.wellFormed {b₀ b : Broker} {log : List TransportCall} (hb₀ : b₀.Fresh)
    (hcap : 0 < b₀.storage.receiveCap) (h : Ready b₀ b log) : b.WellFormed := by
  obtain ⟨storage, receiveData, rawScratch, decoded, rfl⟩ := hb₀
  rcases h.cleared with rfl | ⟨limits, deadlineMs, decoded, rfl⟩
  · exact ⟨rfl, rfl, hcap, fun _ => rfl, fun _ => ⟨rfl, rfl⟩, fun _ => ⟨rfl, rfl, rfl⟩⟩
  · exact ⟨rfl, rfl, hcap, fun _ => rfl, fun _ => ⟨rfl, rfl⟩, fun _ => ⟨rfl, rfl, rfl⟩⟩

/-- The report and its record are within the limits. -/
def FrameLimits.Hold (limits : FrameLimits) (payload record : Octets) : Prop :=
  payload.length ≤ limits.controlPayloadMax ∧ record.length ≤ limits.encodedRecordMax

section Reading

variable {δ : Type} (q : Qcbor δ) (request : Frame) (code : ℕ) (payload : Octets)

/-- A bulk session that was opened for the request and has returned `frames`, which are all that
comes in front of `record`, returns `code` next, however the octets arrive. -/
def BulkReads (frames : List Wire.Frame) (record : Octets) : Prop :=
  ∀ (σ : Type) (ops : BrokerOps σ) (b b₀ : Broker) (w w₀ : σ) (requestBody : Octets)
    (exactDataSize : ℕ) (timeoutMs : BitVec 32), b.Used →
    bulkBegin ops request.service request.requestId requestBody exactDataSize timeoutMs b w
      = (.ok, b₀, w₀) →
    ∀ (clock : ℕ → BitVec 64) (closing : Status) (p p' : Playback) (rest : Octets) (fuel : ℕ)
      (calls : List BulkCall) (returns : List BulkReturn) (b' : Broker),
      p.Fits b₀.storage.receiveCap → (∀ n, clock n < b₀.deadlineMs) →
      p.bytes = (frames.map recordOf).flatten ++ (record ++ rest) → b₀.limits.Hold payload record →
      bulkCalls (playbackOps clock closing) q fuel calls b₀ p = (returns, b', p') →
      received returns = frames.map (fun frame => ⟨frame.toFrame, frame.payload⟩) →
      b'.bulkClosed = false →
      ∀ fuel', turns b' p' < fuel' → ∃ b'' p'',
        bulkReceive (playbackOps clock closing) q fuel' b' p'
          = some (.error (Status.ofCode code), b'', p'')

/-- A request whose answer begins with `record` returns `code` if it was sent at all. -/
def RequestReads (record : Octets) : Prop :=
  ∀ (b : Broker) (s : Setting) (w : Exchange) (supplied : Option RequestId) (requestBody : Octets)
    (timeoutMs : BitVec 32) (rest : Octets), b.Used → supplied.getD s.drawn = request.requestId →
    w.Fits b.storage.receiveCap → (∀ n, s.clock n < deadlineOf (s.clock w.ticks) timeoutMs) →
    w.bytes = record ++ rest → (effectiveLimits b.storage s.limits).Hold payload record →
    ∀ fuel, 2 * w.arrivals.length < fuel → ∃ result b' w',
      brokerRequest (exchangeOps s) q fuel request.service supplied requestBody timeoutMs b w
        = some (result, b', w') ∧
      (w'.sent ≠ w.sent → result = .error (Status.ofCode code))

/-- The sends of an upload in front of the last, all successful. -/
def uploadAhead {σ : Type} (ops : SessionOps σ) (fuel : ℕ) :
    List Octets → Broker → σ → Option (Broker × σ)
  | [], b, w => some (b, w)
  | piece :: pieces, b, w =>
    match uploadSend ops q fuel piece false b w with
    | some (.ok none, b, w) => uploadAhead ops fuel pieces b w
    | _ => none

/-- An upload whose answer begins with `record` returns `code` once its last record is out. -/
def UploadReads (record : Octets) : Prop :=
  ∀ (b b₁ b₂ b₃ : Broker) (s : Setting) (w w₁ w₂ w₃ : Exchange) (requestBody rest last : Octets)
    (timeoutMs : BitVec 32) (fuel : ℕ) (pieces : List Octets), b.Used →
    w.Fits b.storage.receiveCap → (∀ n, s.clock n < deadlineOf (s.clock w.ticks) timeoutMs) →
    w.bytes = record ++ rest → (effectiveLimits b.storage s.limits).Hold payload record →
    uploadBegin (exchangeOps s) request.service request.requestId requestBody timeoutMs b w
      = (.ok, b₁, w₁) →
    uploadAhead q (exchangeOps s) fuel pieces b₁ w₁ = some (b₂, w₂) →
    last ≠ [] → last.length ≤ b₂.limits.dataPayloadMax →
    b₂.uploadNextSequence ≠ uint32Max →
    uploadRecords (exchangeOps s) last true b₂ w₂ = (.ok, b₃, w₃) →
    ∀ fuel', 2 * w₃.arrivals.length < fuel' → ∃ b' w',
      uploadSend (exchangeOps s) q fuel' last true b₂ w₂
        = some (.error (Status.ofCode code), b', w')

end Reading

section Reads

variable {δ : Type} {q : Qcbor δ} {request : Frame} {code : ℕ} {payload : Octets}

theorem errorFrame_admissible {limits : FrameLimits} (hs : serviceIsValid request.service = true)
    (n : ℕ) (hlen : payload.length ≤ limits.controlPayloadMax) :
    Admissible limits (errorFrame request n payload).toFrame payload :=
  ⟨hs, rfl, rfl, by
    simp only [errorFrame]
    rwa [PayloadAllowed, if_neg (by decide), if_neg (by decide), if_neg (by decide)]⟩

theorem IsReport.ne_nil (h : IsReport request.service code payload) : payload ≠ [] := by
  obtain ⟨-, -, detail, -, -, rfl⟩ := h
  simp [encodeRemoteError, Cbor.mapHead, Cbor.head]

/-- The record of the report decodes in a session whose limits hold it. -/
theorem errorFrame_decodes {storage : BrokerStorage} {limits : FrameLimits}
    (hvalid : limitsAreValid (effectiveLimits storage limits) = true)
    (hs : serviceIsValid request.service = true) (hreport : IsReport request.service code payload)
    (n : ℕ) (hhold : (effectiveLimits storage limits).Hold payload
      (recordOf (errorFrame request n payload))) :
    frameDecode (stuffed (errorFrame request n payload).toFrame payload)
        (effectiveLimits storage limits) storage.rawScratchCap
      = .ok ((errorFrame request n payload).toFrame, payload) := by
  have hpos := List.length_pos_iff.mpr hreport.ne_nil
  have hlen := hhold.1
  refine frameDecode_stuffed hvalid (errorFrame_admissible hs n hlen) ?_ ?_
  · simpa [recordOf, errorFrame] using hhold.2
  · simp only [effectiveLimits, headerSize, trailerSize] at hlen
    omega

theorem stuffed_ne_nil (frame : Frame) (payload : Octets) : stuffed frame payload ≠ [] := by
  rw [stuffed, Cobs.encode]
  rcases h : Cobs.blocks (rawRecord crc32c frame payload) with _ | ⟨block, blocks⟩
  · exact absurd h (Cobs.blocksFrom_ne_nil [] _)
  · simp

theorem records_recordOf (frame : Wire.Frame) (rest : Octets) :
    records (recordOf frame ++ rest) = stuffed frame.toFrame frame.payload :: records rest := by
  rw [recordOf, List.append_assoc, List.singleton_append, records_close (zero_notMem_stuffed _ _)]

theorem records_recordsOf (frames : List Wire.Frame) (rest : Octets) :
    records ((frames.map recordOf).flatten ++ rest)
      = frames.map (fun frame => stuffed frame.toFrame frame.payload) ++ records rest := by
  induction frames with
  | nil => rfl
  | cons frame frames ih =>
    rw [List.map_cons, List.flatten_cons, List.append_assoc, records_recordOf, ih]
    rfl

/-- **A bulk session reads the report** behind the frames it has taken. -/
theorem bulkReads (hq : q.Correct) (hs : serviceIsValid request.service = true)
    (hreport : IsReport request.service code payload) {frames : List Wire.Frame}
    (hcount : frames.length < 2 ^ 32 - 2) (hkinds : ∀ frame ∈ frames, frame.type ≠ messageComplete) :
    BulkReads q request code payload frames (recordOf (errorFrame request frames.length payload)) := by
  intro σ ops b b₀ w w₀ requestBody exactDataSize timeoutMs hused hbegin clock closing p p' rest fuel
    calls returns b' hfits htime hbytes hhold hcalls hreceived hopen fuel' hfuel
  obtain ⟨b₁, log, hb₁, hcap, hready⟩ := hused.ready
  have hidle : b.initialized = true ∧ b.opened = false := by
    rw [bulkBegin] at hbegin
    split_ifs at hbegin with h1 h2 h3 h4 <;> simp_all
  have hfresh := bulkBegin_ok hbegin ((hready hidle.1 hidle.2).wellFormed hb₁ hcap)
  obtain ⟨limits, hlimits⟩ := bulkBegin_limits hbegin
  have hstart := hfresh.alive hfits htime
  have hposition : Position p.bytes ([] : List Response).length b₀ p :=
    ⟨hfresh.sequence, by rw [hfresh.unread, List.nil_append]; rfl⟩
  obtain ⟨halive, hposition⟩ := hstart.calls_position q hposition hcalls hopen
  rw [List.nil_append, hreceived] at halive hposition
  rw [List.length_map] at hposition
  have hcomplete : b'.stream.complete = false := by
    by_contra hc
    rw [Bool.not_eq_false] at hc
    obtain ⟨r, hr, htype⟩ := halive.ended hc
    obtain ⟨frame, hmem, rfl⟩ := List.mem_map.mp (List.mem_of_getLast? hr)
    exact hkinds frame hmem htype
  -- the record of the report is the one behind those of the frames
  have hrecord : (records p.bytes)[frames.length]?
      = some (stuffed (errorFrame request frames.length payload).toFrame payload) := by
    rw [hbytes, records_recordsOf, records_recordOf,
      List.getElem?_append_right (Nat.le_of_eq (List.length_map _)), List.length_map, Nat.sub_self]
    rfl
  have hvalid := hfresh.live.limitsValid
  have hvalid : limitsAreValid (effectiveLimits b₀.storage limits) = true := by
    rw [← hlimits]
    exact hvalid
  rw [hlimits] at hhold
  have hdec := errorFrame_decodes hvalid hs hreport frames.length hhold
  have hplan : b₀.plan.errorFrame (BitVec.ofNat 32 frames.length)
      = (errorFrame request frames.length payload).toFrame := by
    simp only [BulkPlan.errorFrame, errorFrame, Broker.plan, hfresh.service, hfresh.requestId]
  have hreports : b₀.plan.Reports (BitVec.ofNat 32 frames.length)
      (stuffed (errorFrame request frames.length payload).toFrame payload) code := by
    refine ⟨recordVerdict_eq_ok.mpr ⟨rfl, ?_, ?_⟩, (ofNat_ne_max hcount).1, payload, ?_, ?_, ?_⟩
    · exact stuffed_ne_nil _ _
    · have := hhold.2
      simp only [recordOf, List.length_append, List.length_singleton, effectiveLimits, errorFrame] at this
      simp only [Broker.plan, errorFrame]
      omega
    · rw [hplan, ← hdec, ← hlimits]
      rfl
    · simp only [Broker.plan, hfresh.service]
      exact hreport
    · have := hhold.1
      simp only [effectiveLimits] at this
      simp only [Broker.plan]
      omega
  have hdone : (frames.map fun frame => (⟨frame.toFrame, frame.payload⟩ : Response)).length
      = frames.length := List.length_map _
  rw [← hdone] at hposition hrecord hreports
  obtain ⟨b'', p'', hrun, -⟩ := bulkReceive_report q hq halive hposition hcomplete hrecord hreports hfuel
  exact ⟨b'', p'', hrun⟩

/-- A request goes out within valid limits only. -/
theorem limitsAreValid_of_sent {b₀ b b' : Broker} {log : List TransportCall} {s : Setting}
    {w w' : Exchange} {service : ServiceId} {supplied : Option RequestId} {requestBody : Octets}
    {timeoutMs : BitVec 32} {fuel : ℕ} {result : Except Status Response} (hb₀ : b₀.Fresh)
    (hready : b.initialized = true → b.opened = false → Ready b₀ b log)
    (hfits : w.Fits b.storage.receiveCap)
    (ht : ∀ n, s.clock n < deadlineOf (s.clock w.ticks) timeoutMs)
    (hrun : brokerRequest (exchangeOps s) q fuel service supplied requestBody timeoutMs b w
      = some (result, b', w')) (hsent : w'.sent ≠ w.sent) :
    limitsAreValid (effectiveLimits b.storage s.limits) = true := by
  rcases brokerRequest_asks q fuel hb₀ hready hfits ht with
    ⟨status, b₁, w₁, -, hsame, heq⟩ | ⟨b₁, w₁, -, ⟨hne, -⟩ | ⟨-, -, -, -, hwait, -⟩⟩
  · rw [heq] at hrun
    cases hrun
    exact absurd hsame hsent
  · exact absurd rfl hne
  · rw [← effectiveLimits_emptied]
    exact hwait.waiting.limitsValid

/-- **A request reads the report** that answers it. -/
theorem requestReads (hq : q.Correct) (hs : serviceIsValid request.service = true)
    (hreport : IsReport request.service code payload) :
    RequestReads q request code payload (recordOf (errorFrame request 0 payload)) := by
  intro b s w supplied requestBody timeoutMs rest hused hid hfits ht hbytes hhold fuel hfuel
  obtain ⟨b₀, log, hb₀, -, hready⟩ := hused.ready
  have hrecords : records w.bytes
      = stuffed (errorFrame request 0 payload).toFrame payload :: records rest := by
    rw [hbytes, records_recordOf]
    rfl
  have hreturns : brokerRequest (exchangeOps s) q fuel request.service supplied requestBody timeoutMs
      b w ≠ none :=
    brokerRequest_exchange_returns q fuel hb₀ hready hfits ht hq (.inl (by rw [hrecords]; simp)) hfuel
  rcases hrun : brokerRequest (exchangeOps s) q fuel request.service supplied requestBody timeoutMs b w
    with _ | ⟨result, b', w'⟩
  · exact absurd hrun hreturns
  refine ⟨result, b', w', rfl, fun hsent => ?_⟩
  have hvalid := limitsAreValid_of_sent hb₀ hready hfits ht hrun hsent
  rcases brokerRequest_exchange q fuel hb₀ hready hfits ht hq hrun with ⟨-, -, -, hsame⟩ | ⟨-, -, hended⟩
  · exact absurd hsame hsent
  · unfold Ended at hended
    rw [hrecords, List.head?_cons, hid] at hended
    exact hended.report payload code (errorFrame_decodes hvalid hs hreport 0 hhold) hreport

theorem Listening.ahead {s : Setting} {limits : FrameLimits} {service : ServiceId}
    {requestId : RequestId} {b b' : Broker} {w w' : Exchange} {stream : Octets} {fuel : ℕ}
    {pieces : List Octets} (h : Listening s limits service requestId b w stream)
    (hrun : uploadAhead q (exchangeOps s) fuel pieces b w = some (b', w')) :
    Listening s limits service requestId b' w' stream ∧
      b'.storage.rawScratchCap = b.storage.rawScratchCap ∧ b'.uploadMode = b.uploadMode := by
  induction pieces generalizing b w with
  | nil =>
    obtain ⟨rfl, rfl⟩ := Prod.mk.inj (Option.some.inj hrun)
    exact ⟨h, rfl, rfl⟩
  | cons piece pieces ih =>
    rw [uploadAhead] at hrun
    split at hrun
    · rename_i b₁ w₁ hsend
      obtain ⟨hnext, hcap, hmode⟩ := h.send q hsend
      obtain ⟨hlast, hcap', hmode'⟩ := ih hnext hrun
      exact ⟨hlast, hcap'.trans hcap, hmode'.trans hmode⟩
    · exact absurd hrun (by simp)

/-- **An upload reads the report** that answers it. -/
theorem uploadReads (hq : q.Correct) (hs : serviceIsValid request.service = true)
    (hreport : IsReport request.service code payload) :
    UploadReads q request code payload (recordOf (errorFrame request 0 payload)) := by
  intro b b₁ b₂ b₃ s w w₁ w₂ w₃ requestBody rest last timeoutMs fuel pieces hused hfits ht hbytes
    hhold hbegin hahead hne hlen hseq hrecords fuel' hfuel
  obtain ⟨b₀, log, hb₀, -, hready⟩ := hused.ready
  obtain ⟨hfirst, hcap₁, hmode₁⟩ := uploadBegin_listening hb₀ hready hfits ht hbegin
  obtain ⟨hlisten, hcap₂, hmode₂⟩ := hfirst.ahead hahead
  obtain ⟨hout, hcap₃, -⟩ := hlisten.emitted hrecords
  have hdec := errorFrame_decodes hfirst.waiting.limitsValid hs hreport 0 hhold
  rw [← hcap₁, ← hcap₂, ← hcap₃] at hdec
  have hhead : (records w.bytes).head?
      = some (stuffed (errorFrame request 0 payload).toFrame payload) := by
    rw [hbytes, records_recordOf]
    rfl
  rw [uploadSend, if_neg (by simpa using hne),
    if_neg (by simp [hlisten.isOpen, hmode₂.trans hmode₁]), if_neg (by simp [hseq]; omega), hrecords]
  exact uploadAnswer_report q hout hq hhead hdec hreport hfuel

end Reads

/-! ### The two ends together -/

theorem length_encodeRemoteError_le (code service : ℕ) {detail : Octets} (h : detail.length ≤ 256) :
    (encodeRemoteError code service detail).length ≤ defaultLimits.controlPayloadMax := by
  have hhead : ∀ major n, (Cbor.head major n).length ≤ 9 := by
    intro major n
    rw [Cbor.head]
    split_ifs <;> simp [writeU32Be_length, writeU64Be_length]
  simp only [encodeRemoteError, Cbor.mapHead, Cbor.uint, Cbor.text, List.length_append, defaultLimits,
    controlPayloadMax]
  have h₁ := hhead Cbor.majorMap 3
  have h₂ := hhead Cbor.majorUnsigned 1
  have h₃ := hhead Cbor.majorUnsigned code
  have h₄ := hhead Cbor.majorUnsigned 2
  have h₅ := hhead Cbor.majorUnsigned service
  have h₆ := hhead Cbor.majorUnsigned 3
  have h₇ := hhead Cbor.majorText detail.length
  omega

/-- **Every remote error is understood.**  A handler has sent `frames` on its stream, numbered from
0 on and none of them RESPONSE or COMPLETE, and returns an error, typed or not.  Then `sendError`
settles on a `detail` as `DetailSent` says, and, whenever the server's own decoder takes it, writes
the ERROR numbered behind the frames, with 13 for the code of an untyped error or one out of range.
A bulk session of the broker that was opened for the request and has returned `frames` returns the
code next, in whatever pieces the octets arrive; so do a request and an upload when the ERROR is
all the handler had to say. -/
theorem remote_error_understood {δ : Type} (lib : ErrorLibraries) (hlib : lib.Documented) (q : Qcbor δ)
    (hq : q.Correct) (decoder : Wire.Decoder) (request : Frame)
    (hservice : serviceIsValid request.service = true) (handlerError : Option SuppliedError)
    (frames : List Wire.Frame) (sent : List Octets) (stream : Stream)
    (hsent : (newStream decoder request).sendFrames frames = .ok (sent, stream))
    (hnumbers : ∀ i frame, frames[i]? = some frame → frame.sequence = BitVec.ofNat 32 i)
    (hcount : frames.length < 2 ^ 32 - 2)
    (hkinds : ∀ frame ∈ frames, frame.type ≠ messageResponse ∧ frame.type ≠ messageComplete) :
    sent = frames.map recordOf ∧ ∃ detail, DetailSent handlerError detail ∧
      let payload := encodeRemoteError (sentCode handlerError) request.service.toNat detail
      let record := recordOf (errorFrame request frames.length payload)
      (∀ written stream', stream.sendError lib request handlerError = .ok (written, stream') →
        written = record) ∧
      ((∃ frame, Wire.decode decoder record = .ok frame) →
        ∃ stream', stream.sendError lib request handlerError = .ok (record, stream')) ∧
      BulkReads q request (sentCode handlerError) payload frames record ∧
      (frames = [] → RequestReads q request (sentCode handlerError) payload record ∧
        UploadReads q request (sentCode handlerError) payload record) := by
  obtain ⟨code, detail, hpick, hcode, hdetail⟩ := protocolError_sent hlib handlerError
  obtain ⟨hrecords, rfl⟩ := Stream.sendFrames_ok (k := 0) (by simpa using hnumbers)
    (by simpa using hcount) rfl hsent
  rw [Nat.zero_add] at hsent ⊢
  refine ⟨hrecords, detail, hdetail, ?_⟩
  obtain ⟨hlow, hhigh⟩ := sentCode_bounds handlerError
  have hreport : IsReport request.service (sentCode handlerError)
      (encodeRemoteError (sentCode handlerError) request.service.toNat detail) :=
    ⟨hlow, hhigh, detail, hdetail.length.2, hdetail.wellFormed, rfl⟩
  have hframe := Stream.sendErrorFrame_ok
    { newStream decoder request with outboundSequence := BitVec.ofNat 32 frames.length } request
    (encodeRemoteError (sentCode handlerError) request.service.toNat detail) hcount rfl rfl rfl rfl
  have hsend := Stream.sendError_eq hlib
    { newStream decoder request with outboundSequence := BitVec.ofNat 32 frames.length } request hpick
    hdetail.wellFormed
  rw [hcode] at hsend
  simp only [hsend, ofStream_eq_ok]
  refine ⟨?_, ?_, ?_, ?_⟩
  · intro written stream' hwritten
    exact ((hframe written).mp ⟨stream', hwritten⟩).1
  · intro hdecode
    exact (hframe _).mpr ⟨rfl, errorFrame_admissible hservice _
      (length_encodeRemoteError_le _ _ hdetail.length.2), hdecode⟩
  · exact bulkReads hq hservice hreport hcount fun frame hmem => (hkinds frame hmem).2
  · rintro rfl
    exact ⟨requestReads hq hservice hreport, uploadReads hq hservice hreport⟩

/-! ### A sample -/

/-- Libraries that do what is documented. -/
def sampleErrorLibraries : ErrorLibraries :=
  ⟨utf8IsValid, fun payload => some (encodeRemoteError payload.code payload.service payload.detail)⟩

theorem sampleErrorLibraries_documented : sampleErrorLibraries.Documented :=
  ⟨fun _ => utf8IsValid_iff, fun _ _ => rfl⟩

def sampleErrorRequest : Frame :=
  ⟨serviceRecoveryArtifact, messageRequest, 0#8, sampleRequestId, 0#32⟩

/-- The error with code 5 and the detail "n". -/
def sampleHandlerError : SuppliedError := ⟨5#64, [0x6e#8]⟩

/-- A broker asks for two octets. -/
def sampleErrorSession : Status × Broker × Playback :=
  bulkBegin sampleTransport serviceRecoveryArtifact sampleRequestId [] 2 1000#32 (sampleBroker 1#8)
    ⟨[], [], 0⟩

/-- One octet of data comes, and then the ERROR. -/
def sampleErrorArrival : Playback :=
  ⟨[some (recordOf ⟨sampleData, [7#8]⟩), none,
    some (recordOf (errorFrame sampleErrorRequest 1 (encodeRemoteError 5 2 [0x6e#8])))], [], 0⟩

def sampleErrorRun : List BulkReturn × Broker × Playback :=
  bulkCalls sampleTransport plainQcbor 10 [.receive] sampleErrorSession.2.1 sampleErrorArrival

/-- The broker takes the octet and returns `PBNS_ERR_VERSION` for the ERROR. -/
theorem remote_error_understood_sample : received sampleErrorRun.1 = [⟨sampleData, [7#8]⟩] ∧
    ∃ fuel b p, bulkReceive sampleTransport plainQcbor fuel sampleErrorRun.2.1 sampleErrorRun.2.2
      = some (.error .errVersion, b, p) := by
  have hok : sampleErrorSession.1 = .ok := by decide +kernel
  have hbegin : sampleErrorSession = (.ok, sampleErrorSession.2.1, sampleErrorSession.2.2) := by
    rw [← hok]
  have hreceived : received sampleErrorRun.1 = [⟨sampleData, [7#8]⟩] := by decide +kernel
  have hlater : 0#64 < sampleErrorSession.2.1.deadlineMs := by decide +kernel
  have hfits : sampleErrorArrival.Fits sampleErrorSession.2.1.storage.receiveCap := by
    intro chunk hmem
    simp only [sampleErrorArrival, List.mem_cons, List.not_mem_nil, or_false, reduceCtorEq, false_or,
      Option.some.injEq] at hmem
    rcases hmem with rfl | rfl <;> decide +kernel
  have hhistory : brokerCalls sampleOps.traced sampleQcbor 0 [] (sampleBroker 1#8) (⟨[], [], 0⟩, [])
      = some (sampleBroker 1#8, ⟨[], [], 0⟩, []) := rfl
  have hadm : Admissible defaultLimits sampleData [7#8] := ⟨rfl, rfl, rfl, by
    rw [PayloadAllowed, if_pos (show sampleData.type = messageData from rfl)]
    decide⟩
  have hsend : (newStream ⟨Wire.limitsOf defaultLimits⟩ sampleErrorRequest).send ⟨sampleData, [7#8]⟩
      = .ok (recordOf ⟨sampleData, [7#8]⟩, { newStream ⟨Wire.limitsOf defaultLimits⟩ sampleErrorRequest
          with outboundSequence := 1#32 }) :=
    Stream.send_of_admissible ⟨sampleData, [7#8]⟩ rfl rfl hadm (by decide +kernel) rfl rfl (by decide)
      (by decide) rfl
  have hsent : (newStream ⟨Wire.limitsOf defaultLimits⟩ sampleErrorRequest).sendFrames
      [⟨sampleData, [7#8]⟩] = .ok ([recordOf ⟨sampleData, [7#8]⟩],
        { newStream ⟨Wire.limitsOf defaultLimits⟩ sampleErrorRequest with outboundSequence := 1#32 }) := by
    rw [Stream.sendFrames, hsend]
    rfl
  obtain ⟨-, detail, hdetail, -, -, hbulk, -⟩ := remote_error_understood sampleErrorLibraries
    sampleErrorLibraries_documented plainQcbor plainQcbor_correct _ sampleErrorRequest rfl
    (some sampleHandlerError) _ _ _ hsent
    (by
      intro i frame hi
      rcases i with _ | i
      · obtain rfl := Option.some.inj hi
        rfl
      · exact absurd hi (by simp))
    (by decide) (by decide)
  obtain rfl : detail = [0x6e#8] := hdetail.original sampleHandlerError rfl (by decide) (by decide)
    (utf8IsValid_iff.mp (by decide)) (by decide)
  have hrun : bulkCalls sampleTransport plainQcbor 10 [.receive] sampleErrorSession.2.1
      sampleErrorArrival = (sampleErrorRun.1, sampleErrorRun.2.1, sampleErrorRun.2.2) := by
    rw [sampleErrorRun]
  refine ⟨hreceived, _, hbulk Playback sampleTransport (sampleBroker 1#8) _ _ _ [] 2 1000#32
    (.calls (sampleBroker_init 1#8) hhistory) hbegin (fun _ => 0#64) .ok sampleErrorArrival _ [] 10
    [.receive] _ _ hfits (fun _ => hlater) (by decide +kernel) (by unfold FrameLimits.Hold; decide +kernel)
    hrun hreceived (by decide +kernel) _ (Nat.lt_succ_self _)⟩

/-- The detail that was supplied is not always the one that is sent, well formed and short as it
may be: an error whose code is out of range loses its detail with the code, and an empty detail
is replaced. -/
theorem remote_error_detail_replaced :
    (((newStream ⟨Wire.wireDefaultLimits⟩ sampleErrorRequest).sendError sampleErrorLibraries
        sampleErrorRequest (some ⟨23#64, [0x61#8]⟩)).map (·.1)
        = .ok (recordOf (errorFrame sampleErrorRequest 0 (encodeRemoteError 13 2 serviceFailure))) ∧
      utf8IsValid [0x61#8] = true ∧ serviceFailure ≠ [0x61#8]) ∧
    ((newStream ⟨Wire.wireDefaultLimits⟩ sampleErrorRequest).sendError sampleErrorLibraries
        sampleErrorRequest (some ⟨5#64, []⟩)).map (·.1)
        = .ok (recordOf (errorFrame sampleErrorRequest 0 (encodeRemoteError 5 2 serviceFailure))) ∧
      utf8IsValid [] = true ∧ serviceFailure ≠ [] := by
  decide +kernel

end Pbns
