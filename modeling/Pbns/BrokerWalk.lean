/-
What a public call of the broker can do, said once for every property of its runs.

A call is a walk from one quiet broker to the next.  On the way a session is prepared, the
transport opened, its limits asked for, and records sent and received; and the session is left
active or finished.  `Walk` lists these moves, with the memory and the limits a record is built
under.  An invariant of the broker is one statement for each phase, kept by every move.

* `receiveTurn_outline`, `bulkTurn_outline` — what working on received octets leaves alone;
* `emitFrame_stays`, `brokerReceive_stays` — moves inside a session;
* `Begun` — the calls that begin a session leave an active one behind them when they succeed;
* `brokerCall_walk` — every call but a reset is a walk.
-/
import Pbns.BrokerCalls

namespace Pbns

open Octets Guard

/-- The part of a broker that tells where it is in its life, and the sizes of its memory. -/
structure Shell where
  initialized : Bool
  opened : Bool
  active : Bool
  readerInitialized : Bool
  encodedCap : ℕ
  rawScratchCap : ℕ
  receiveCap : ℕ
  decodedCap : ℕ

def Broker.shell (b : Broker) : Shell :=
  ⟨b.initialized, b.opened, b.active, b.reader.initialized, b.storage.encoded.length,
    b.storage.rawScratchCap, b.storage.receiveCap, b.storage.decodedCap⟩

/-- The part of a broker an upload depends on. -/
structure SessionView where
  initialized : Bool
  opened : Bool
  active : Bool
  bulkMode : Bool
  uploadMode : Bool
  uploadResponseReceived : Bool
  service : ServiceId
  requestId : RequestId
  uploadNextSequence : BitVec 32
  encodedCap : ℕ
  rawScratchCap : ℕ

def Broker.view (b : Broker) : SessionView :=
  ⟨b.initialized, b.opened, b.active, b.bulkMode, b.uploadMode, b.uploadResponseReceived,
    b.service, b.requestId, b.uploadNextSequence, b.storage.encoded.length,
    b.storage.rawScratchCap⟩

/-- The sizes of the memory that bear on the limits. -/
structure MemorySizes where
  encodedCap : ℕ
  rawScratchCap : ℕ
  decodedCap : ℕ

def Shell.memory (s : Shell) : MemorySizes := ⟨s.encodedCap, s.rawScratchCap, s.decodedCap⟩

def Broker.memory (b : Broker) : MemorySizes := b.shell.memory

/-- The room the encoder asks for: the longest record of a payload of this length. -/
def recordRoom (payloadLength : ℕ) : ℕ :=
  headerSize + trailerSize + payloadLength + (headerSize + trailerSize + payloadLength) / 254 + 2

/-- A record of a frame whose payload is within the limits and for which the memory has room. -/
def Carried (memory : MemorySizes) (limits : FrameLimits) (record : Octets) : Prop :=
  ∃ frame payload, record = stuffed frame payload ++ [0#8] ∧
    PayloadAllowed limits.controlPayloadMax limits.dataPayloadMax frame.type payload ∧
    recordRoom payload.length ≤ memory.encodedCap

/-! ### What the buffers do not show -/

/-- Everything but the buffers and the counters of a download. -/
structure Outline where
  shell : Shell
  limits : FrameLimits
  view : SessionView

def Broker.outline (b : Broker) : Outline := ⟨b.shell, b.limits, b.view⟩

variable (reader : RecordReader)

include reader

theorem recordReaderReset_initialized :
    (recordReaderReset reader).initialized = reader.initialized := by
  rw [recordReaderReset]
  split_ifs <;> rfl

theorem pushLoop_initialized (storage : Octets) (n : ℕ) (s : Octets) :
    (pushLoop reader storage n s).reader.initialized = reader.initialized := by
  induction s generalizing reader storage n with
  | nil => rfl
  | cons x xs ih =>
    rw [pushLoop]
    split_ifs <;> first | rfl | exact ih _ _ _

theorem pushLoop_length (storage : Octets) (n : ℕ) (s : Octets) :
    (pushLoop reader storage n s).storage.length = storage.length := by
  induction s generalizing reader storage n with
  | nil => rfl
  | cons x xs ih =>
    rw [pushLoop]
    split_ifs <;> first | rfl | exact ih _ _ _ | exact (ih _ _ _).trans List.length_set

theorem recordReaderPush_initialized (storage s : Octets) :
    (recordReaderPush reader storage s).reader.initialized = reader.initialized := by
  rw [recordReaderPush]
  split_ifs
  · rfl
  · exact pushLoop_initialized _ _ _ _

theorem recordReaderPush_length (storage s : Octets) :
    (recordReaderPush reader storage s).storage.length = storage.length := by
  rw [recordReaderPush]
  split_ifs
  · rfl
  · exact pushLoop_length _ _ _ _

omit reader

theorem frameEncode_length (frame : Frame) (payload output : Octets) (cap : ℕ) :
    (frameEncode frame payload cap output).2.1.length = output.length := by
  by_cases h : Admissible defaultLimits frame payload ∧ 40 + payload.length ≤ cap ∧
      40 + payload.length + (40 + payload.length) / 254 + 2 ≤ output.length
  · have hst := length_stuffed_le frame payload
    rw [frameEncode_of_admissible h.1 h.2.1 h.2.2]
    simp
    omega
  · obtain ⟨status, -, henc⟩ := frameEncode_of_refused h
    rw [henc]

theorem remainingTimeout_ne_error_ok {σ : Type} (ops : BrokerOps σ) {b : Broker} {w w' : σ} :
    remainingTimeout ops b w ≠ (.error .ok, w') := by
  rw [remainingTimeout]
  split_ifs
  · simp
  · split
    · split_ifs <;> simp
    · rename_i hne _
      intro h
      cases h
      exact hne rfl

/-! ### What the operations on the transport come to -/

/-- The limits of a session: those of the transport and of the memory. -/
def effectiveLimits (storage : BrokerStorage) (limits : FrameLimits) : FrameLimits :=
  let payloadCapacity := storage.rawScratchCap - headerSize - trailerSize
  ⟨min limits.controlPayloadMax (min payloadCapacity storage.decodedCap),
    min limits.dataPayloadMax (min payloadCapacity storage.decodedCap),
    min limits.encodedRecordMax storage.encoded.length⟩

/-- The encoder takes the frame, and the memory has room for its record. -/
def Broker.HasRoomFor (b : Broker) (frame : Frame) (payload : Octets) : Prop :=
  Admissible defaultLimits frame payload ∧ 40 + payload.length ≤ b.storage.rawScratchCap ∧
    40 + payload.length + (40 + payload.length) / 254 + 2 ≤ b.storage.encoded.length

section Operations

variable {σ : Type} {ops : BrokerOps σ} {b b' : Broker} {w w' : σ} {status : Status} {frame : Frame}
  {payload : Octets}

/-- A session goes by what the transport reports, if the report is within the protocol's bounds. -/
theorem queryEffectiveLimits_cases (h : queryEffectiveLimits ops b w = (status, b', w')) :
    w' = (ops.limits w).2.2 ∧ (status ≠ .ok ∧ b' = b ∨
      status = .ok ∧ (ops.limits w).1 = .ok ∧
        limitsAreValid (effectiveLimits b.storage (ops.limits w).2.1) = true ∧
        b' = { b with limits := effectiveLimits b.storage (ops.limits w).2.1 }) := by
  rw [queryEffectiveLimits] at h
  split at h <;> rename_i heq <;> rw [heq]
  · split_ifs at h with hbad <;> cases h
    · exact ⟨rfl, .inl ⟨by decide, rfl⟩⟩
    · refine ⟨rfl, .inr ⟨rfl, rfl, limitsAreValid_iff.mpr ?_, rfl⟩⟩
      simp only [controlPayloadMax, dataPayloadMax, wireMax] at hbad
      simp only [effectiveLimits]
      omega
  · cases h
    exact ⟨rfl, .inl ⟨‹_›, rfl⟩⟩

/-- The encoder writes the record of a frame there is room for, and keeps the size of the memory. -/
theorem frameEncode_cases {encoded : Octets} {written : ℕ}
    (h : frameEncode frame payload b.storage.rawScratchCap b.storage.encoded
      = (status, encoded, written)) :
    encoded.length = b.storage.encoded.length ∧ (status = .ok ↔ b.HasRoomFor frame payload) ∧
      (status = .ok → encoded.take written = stuffed frame payload ++ [0#8]) := by
  have hlen := frameEncode_length frame payload b.storage.encoded b.storage.rawScratchCap
  rw [h] at hlen
  by_cases hroom : b.HasRoomFor frame payload
  · obtain ⟨hadm, hraw, hout⟩ := hroom
    rw [frameEncode_of_admissible hadm hraw hout] at h
    cases h
    exact ⟨hlen, ⟨fun _ => ⟨hadm, hraw, hout⟩, fun _ => rfl⟩, fun _ => List.take_left' (by simp)⟩
  · obtain ⟨status₁, hne, hrefused⟩ := frameEncode_of_refused hroom
    rw [hrefused] at h
    cases h
    exact ⟨rfl, ⟨fun hok => absurd hok hne, fun h => absurd h hroom⟩, fun hok => absurd hok hne⟩

/-- A record goes out in one attempt, or there is no room for it. -/
theorem sendFrame_cases {remainingMs : BitVec 32}
    (h : sendFrame ops frame payload remainingMs b w = (status, b', w')) :
    ∃ encoded rawScratch, encoded.length = b.storage.encoded.length ∧
      b' = { b with storage.encoded := encoded, rawScratch } ∧
      (status ≠ .ok ∧ ¬ b.HasRoomFor frame payload ∧ w' = w ∨ b.HasRoomFor frame payload ∧
        ops.send (stuffed frame payload ++ [0#8]) remainingMs w = (status, w')) := by
  rw [sendFrame] at h
  split at h <;> rename_i henc <;> obtain ⟨hlen, hroom, hrecord⟩ := frameEncode_cases henc <;> cases h
  · exact ⟨_, _, hlen, rfl, .inr ⟨hroom.mp rfl, by rw [hrecord rfl]⟩⟩
  · exact ⟨_, _, hlen, rfl, .inl ⟨‹_›, fun h => absurd (hroom.mpr h) ‹_›, rfl⟩⟩

/-- The same with the time that is left: there may be none. -/
theorem emitFrame_cases (h : emitFrame ops frame payload b w = (status, b', w')) :
    ∃ encoded rawScratch, encoded.length = b.storage.encoded.length ∧
      b' = { b with storage.encoded := encoded, rawScratch } ∧
      (status ≠ .ok ∧ (w' = w ∨ remainingTimeout ops b w = (.error status, w')) ∨
        b.HasRoomFor frame payload ∧ ∃ remainingMs w₁,
          remainingTimeout ops b w = (.ok remainingMs, w₁) ∧
          ops.send (stuffed frame payload ++ [0#8]) remainingMs w₁ = (status, w')) := by
  rw [emitFrame] at h
  split at h <;> rename_i henc <;> obtain ⟨hlen, hroom, hrecord⟩ := frameEncode_cases henc
  · simp only at h
    split at h <;> rename_i hrt <;> cases h
    · refine ⟨_, _, hlen, rfl, .inl ⟨?_, .inr hrt⟩⟩
      rintro rfl
      exact remainingTimeout_ne_error_ok ops hrt
    · exact ⟨_, _, hlen, rfl, .inr ⟨hroom.mp rfl, _, _, hrt, by rw [hrecord rfl]⟩⟩
  · cases h
    exact ⟨_, _, hlen, rfl, .inl ⟨‹_›, .inl rfl⟩⟩

end Operations

section Outline

variable {δ : Type} (q : Qcbor δ) (b : Broker)

theorem reset_outline (stream : StreamState) (rawScratch : Octets) :
    { b with reader := recordReaderReset b.reader, stream, rawScratch }.outline = b.outline := by
  simp only [Broker.outline, Broker.shell, Broker.view, recordReaderReset_initialized]

theorem pushed_outline (n : ℕ) :
    { b with
      reader := (recordReaderPush b.reader b.storage.encoded b.unread).reader
      storage.encoded := (recordReaderPush b.reader b.storage.encoded b.unread).storage
      receiveOffset := n }.outline = b.outline := by
  simp only [Broker.outline, Broker.shell, Broker.view, recordReaderPush_initialized,
    recordReaderPush_length]

/-- The memory an outgoing frame is encoded into. -/
theorem encoded_outline {encoded : Octets} (h : encoded.length = b.storage.encoded.length)
    (rawScratch : Octets) : { b with storage.encoded := encoded, rawScratch }.outline = b.outline := by
  simp only [Broker.outline, Broker.shell, Broker.view, h]

theorem receiveFrame_outline (frame : Frame) (payload : Octets) :
    (receiveFrame q frame payload b).2.outline = b.outline := by
  rw [receiveFrame]
  split_ifs <;> rfl

theorem receiveRecord_outline (record : Octets) :
    (receiveRecord q record b).2.outline = b.outline := by
  rw [receiveRecord]
  rcases frameDecode record b.limits b.storage.rawScratchCap with status | ⟨frame, payload⟩
  · exact reset_outline b _ _
  · simp only
    split
    · exact (receiveFrame_outline q _ frame payload).trans (reset_outline b _ _)
    · exact reset_outline b _ _

theorem receiveTurn_outline : (receiveTurn q b).2.outline = b.outline := by
  have hpushed := pushed_outline b
    (b.receiveOffset + (recordReaderPush b.reader b.storage.encoded b.unread).consumed)
  rw [receiveTurn]
  simp only
  split
  · exact hpushed
  · exact (receiveRecord_outline q _ _).trans hpushed
  · exact hpushed
  · exact hpushed

theorem receiveAwait_outline (status : Status) (received : Octets) :
    (receiveAwait status received b).2.outline = b.outline := by
  rw [receiveAwait]
  split_ifs <;> rfl

theorem bulkFrame_outline (frame : Frame) (payload : Octets) :
    (bulkFrame q frame payload b).2.outline = b.outline := by
  rw [bulkFrame]
  split_ifs <;> first | rfl | (rw [bulkDeliver]; split_ifs <;> rfl)

theorem bulkRecord_outline (record : Octets) : (bulkRecord q record b).2.outline = b.outline := by
  rw [bulkRecord]
  rcases frameDecode record b.limits b.storage.rawScratchCap with status | ⟨frame, payload⟩
  · exact reset_outline b b.stream (decodeScratch record b.limits b.rawScratch)
  · simp only
    split_ifs
    · exact reset_outline b b.stream (decodeScratch record b.limits b.rawScratch)
    · split
      · exact (bulkFrame_outline q _ frame payload).trans (reset_outline b _ _)
      · rename_i stream _ _
        exact reset_outline b stream (decodeScratch record b.limits b.rawScratch)

theorem bulkTurn_outline : (bulkTurn q b).2.outline = b.outline := by
  have hpushed := pushed_outline b
    (b.receiveOffset + (recordReaderPush b.reader b.storage.encoded b.unread).consumed)
  rw [bulkTurn]
  simp only
  split
  · exact hpushed
  · exact (bulkRecord_outline q _ _).trans hpushed
  · exact hpushed
  · exact hpushed

theorem bulkAwait_outline (status : Status) (received : Octets) :
    (bulkAwait status received b).2.outline = b.outline := by
  rw [bulkAwait]
  split_ifs <;> rfl

end Outline

/-! ### Walks -/

/-- How far a session is: there is none, it is prepared, the transport is open, and the limits of
the transport are known. -/
inductive SessionPhase
  | rest
  | prepared
  | opened
  | governed

/-- The moves of the broker and of the world around it. -/
inductive Walk {σ : Type} (ops : SessionOps σ) :
    SessionPhase → Broker → σ → SessionPhase → Broker → σ → Prop
  | refl (p : SessionPhase) (b : Broker) (w : σ) : Walk ops p b w p b w
  | trans {p p₁ p₂ : SessionPhase} {b b₁ b₂ : Broker} {w w₁ w₂ : σ} (h : Walk ops p b w p₁ b₁ w₁)
      (h' : Walk ops p₁ b₁ w₁ p₂ b₂ w₂) : Walk ops p b w p₂ b₂ w₂
  -- the beginning of a session
  | prepare {b : Broker} (w : σ) (hi : b.initialized = true) (ha : b.active = false)
      (ho : b.opened = false) (requestId : RequestId) :
      Walk ops .rest b w .prepared
        { wipeRequestStorage false b with reader := recordReaderReset b.reader, requestId } w
  | number (b : Broker) (w : σ) (requestId : RequestId) :
      Walk ops .prepared b w .prepared { b with requestId } w
  | random (b : Broker) (w : σ) : Walk ops .prepared b w .prepared b (ops.random w).2.2
  | start (b : Broker) (w : σ) : Walk ops .prepared b w .prepared b (ops.monotonicMs w).2.2
  | refused (b : Broker) {w w' : σ} {status : Status} (hne : status ≠ .ok)
      (h : ops.openTransport w = (status, w')) : Walk ops .prepared b w .prepared b w'
  | giveUp (b : Broker) (w : σ) (deadlineMs : BitVec 64) {deadlineActive : Bool}
      (hdeadline : deadlineActive = true → b.deadlineActive = true) {tidy : Broker → Broker}
      (htidy : tidy = id ∨ tidy = wipeRequestStorage false) :
      Walk ops .prepared b w .rest
        (tidy { b with deadlineMs, deadlineActive, requestId := requestIdZero }) w
  | connect (b : Broker) {w w' : σ} (h : ops.openTransport w = (.ok, w')) (deadlineMs : BitVec 64) :
      Walk ops .prepared b w .opened { b with deadlineMs, deadlineActive := true, opened := true } w'
  | ask (b : Broker) (w : σ) :
      Walk ops .opened b w .opened (queryEffectiveLimits ops.toBrokerOps b w).2.1
        (queryEffectiveLimits ops.toBrokerOps b w).2.2
  | governed {b b' : Broker} {w w' : σ}
      (h : queryEffectiveLimits ops.toBrokerOps b w = (.ok, b', w')) :
      Walk ops .opened b w .governed b' w'
  -- inside a session
  | inner {b b' : Broker} (w : σ) (hshell : b'.shell = { b.shell with active := b'.active })
      (hactive : b.active = true → b'.active = true) (hlimits : b'.limits = b.limits) :
      Walk ops .governed b w .governed b' w
  | clock (b : Broker) (w : σ) : Walk ops .governed b w .governed b (ops.monotonicMs w).2.2
  | send {b : Broker} {record : Octets} (w : σ) (h : Carried b.memory b.limits record)
      (timeoutMs : BitVec 32) : Walk ops .governed b w .governed b (ops.send record timeoutMs w).2
  | receive (b : Broker) (w : σ) (cap : ℕ) (timeoutMs : BitVec 32) :
      Walk ops .governed b w .governed b (ops.receive cap timeoutMs w).2.2
  | cancel (b : Broker) (w : σ) (requestId : RequestId) :
      Walk ops .governed b w .governed b (ops.cancel requestId w).2
  | resume {b : Broker} (w : σ) (ha : b.active = true) : Walk ops .rest b w .governed b w
  | live {b : Broker} (w : σ) (ha : b.active = true) : Walk ops .governed b w .rest b w
  -- the end of a session
  | leave (b : Broker) (w : σ) : Walk ops .governed b w .opened b w
  | finish (b : Broker) (w : σ) (preserveDecoded : Bool) (decoded : Octets) :
      Walk ops .opened b w .rest
        { (finishSession ops.toBrokerOps preserveDecoded b w).2.1 with decoded }
        (finishSession ops.toBrokerOps preserveDecoded b w).2.2

section Walks

variable {σ δ : Type} (ops : SessionOps σ) (q : Qcbor δ) {b b' b₁ : Broker} {w w' w₁ : σ}

variable {ops} in
theorem Walk.finished (b : Broker) (w : σ) (preserveDecoded : Bool) :
    Walk ops .opened b w .rest (finishSession ops.toBrokerOps preserveDecoded b w).2.1
      (finishSession ops.toBrokerOps preserveDecoded b w).2.2 :=
  .finish b w preserveDecoded (finishSession ops.toBrokerOps preserveDecoded b w).2.1.decoded

/-! ### Inside a session -/

/-- A move inside a session after which the broker looks the same but for its buffers. -/
def Stays (b : Broker) (w : σ) (r : Broker × σ) : Prop :=
  Walk ops .governed b w .governed r.1 r.2 ∧ r.1.outline = b.outline

variable {ops} in
theorem Stays.trans {r : Broker × σ} (h : Stays ops b w (b₁, w₁)) (h' : Stays ops b₁ w₁ r) :
    Stays ops b w r :=
  ⟨h.1.trans h'.1, h'.2.trans h.2⟩

variable {ops} in
theorem Stays.buffered (w : σ) (h : b'.outline = b.outline) : Stays ops b w (b', w) := by
  have hshell : b'.shell = b.shell := congrArg Outline.shell h
  have hactive : b'.active = b.active := congrArg Shell.active hshell
  refine ⟨.inner w ?_ (fun ha => hactive.trans ha) (congrArg Outline.limits h), h⟩
  rw [hshell, hactive]
  rfl

variable {ops} in
theorem Stays.sent {record : Octets} (w : σ) (h : Carried b.memory b.limits record)
    (timeoutMs : BitVec 32) : Stays ops b w (b, (ops.send record timeoutMs w).2) :=
  ⟨.send w h timeoutMs, rfl⟩

theorem Stays.received (b : Broker) (w : σ) (cap : ℕ) (timeoutMs : BitVec 32) :
    Stays ops b w (b, (ops.receive cap timeoutMs w).2.2) :=
  ⟨.receive b w cap timeoutMs, rfl⟩

variable {ops} in
theorem Stays.active (h : Stays ops b w (b', w')) (ha : b.active = true) : b'.active = true :=
  (congrArg (·.shell.active) h.2).trans ha

variable {ops} in
/-- A call inside an active session. -/
theorem Stays.during (h : Stays ops b w (b', w')) (ha : b.active = true) :
    Walk ops .rest b w .rest b' w' :=
  ((Walk.resume w ha).trans h.1).trans (.live w' (h.active ha))

variable {ops} in
/-- A call that ends an active session. -/
theorem Stays.ending (h : Stays ops b w (b₁, w₁)) (ha : b.active = true)
    (h' : Walk ops .opened b₁ w₁ .rest b' w') : Walk ops .rest b w .rest b' w' :=
  (((Walk.resume w ha).trans h.1).trans (.leave b₁ w₁)).trans h'

/-- The clock is read once at most, whatever the deadline is. -/
theorem remainingTimeout_stays (b b' : Broker) (w : σ) :
    Stays ops b w (b, (remainingTimeout ops.toBrokerOps b' w).2) := by
  have hclock : Stays ops b w (b, (ops.monotonicMs w).2.2) := ⟨.clock b w, rfl⟩
  rw [remainingTimeout]
  split_ifs
  · exact .buffered w rfl
  · split <;> rename_i heq <;> rw [heq] at hclock
    · split_ifs <;> exact hclock
    · exact hclock

theorem Broker.HasRoomFor.carried {frame : Frame} {payload : Octets} (h : b.HasRoomFor frame payload)
    (hp : PayloadAllowed b.limits.controlPayloadMax b.limits.dataPayloadMax frame.type payload) :
    Carried b.memory b.limits (stuffed frame payload ++ [0#8]) :=
  ⟨frame, payload, rfl, hp, h.2.2⟩

theorem sendFrame_stays (frame : Frame) {payload : Octets} (b : Broker) (w : σ) (remainingMs : BitVec 32)
    (hp : PayloadAllowed b.limits.controlPayloadMax b.limits.dataPayloadMax frame.type payload) :
    Stays ops b w (sendFrame ops.toBrokerOps frame payload remainingMs b w).2 := by
  rcases hrun : sendFrame ops.toBrokerOps frame payload remainingMs b w with ⟨status, b', w'⟩
  obtain ⟨encoded, rawScratch, hlen, rfl, ⟨-, -, rfl⟩ | ⟨hroom, hsend⟩⟩ := sendFrame_cases hrun
  · exact .buffered _ (encoded_outline b hlen rawScratch)
  · have hsent : Stays ops b w _ := .sent w (hroom.carried hp) remainingMs
    rw [hsend] at hsent
    exact hsent.trans (.buffered _ (encoded_outline b hlen rawScratch))

theorem emitFrame_stays (frame : Frame) {payload : Octets} (b : Broker) (w : σ)
    (hp : PayloadAllowed b.limits.controlPayloadMax b.limits.dataPayloadMax frame.type payload) :
    Stays ops b w (emitFrame ops.toBrokerOps frame payload b w).2 := by
  rcases hrun : emitFrame ops.toBrokerOps frame payload b w with ⟨status, b', w'⟩
  obtain ⟨encoded, rawScratch, hlen, rfl, hsent⟩ := emitFrame_cases hrun
  refine Stays.trans ?_ (.buffered w' (encoded_outline b hlen rawScratch))
  have hclock := remainingTimeout_stays ops b b w
  rcases hsent with ⟨-, rfl | hrt⟩ | ⟨hroom, remainingMs, w₁, hrt, hsend⟩
  · exact .buffered _ rfl
  · rwa [hrt] at hclock
  · have hout : Stays ops b w₁ _ := .sent w₁ (hroom.carried hp) remainingMs
    rw [hrt] at hclock
    rw [hsend] at hout
    exact hclock.trans hout

theorem receiveStep_stays (b : Broker) (w : σ) :
    Stays ops b w (receiveStep ops.toBrokerOps q b w).2 := by
  rw [receiveStep]
  split_ifs
  · have hclock := remainingTimeout_stays ops b b.drained w
    rw [receiveAsk]
    split <;> rename_i heq <;> rw [heq] at hclock
    · exact hclock.trans (.buffered _ rfl)
    · exact (hclock.trans (.received ops b _ _ _)).trans
        (.buffered _ (receiveAwait_outline b.drained _ _))
  · exact .buffered w (receiveTurn_outline q b)

theorem bulkStep_stays (b : Broker) (w : σ) : Stays ops b w (bulkStep ops.toBrokerOps q b w).2 := by
  rw [bulkStep]
  split_ifs
  · have hclock := remainingTimeout_stays ops b b.drained w
    rw [bulkAsk]
    split <;> rename_i heq <;> rw [heq] at hclock
    · exact hclock.trans (.buffered _ rfl)
    · exact (hclock.trans (.received ops b _ _ _)).trans
        (.buffered _ (bulkAwait_outline b.drained _ _))
  · exact .buffered w (bulkTurn_outline q b)

variable {fuel : ℕ} {result : Except Status Response}

theorem receiveLoop_stays (h : receiveLoop ops.toBrokerOps q fuel b w = some (result, b', w')) :
    Stays ops b w (b', w') := by
  induction fuel generalizing b w with
  | zero => cases h
  | succ fuel ih =>
    have hstep := receiveStep_stays ops q b w
    rw [receiveLoop] at h
    split at h <;> rename_i heq <;> rw [heq] at hstep
    · cases h
      exact hstep
    · exact hstep.trans (ih h)

theorem bulkReceiveLoop_stays
    (h : bulkReceiveLoop ops.toBrokerOps q fuel b w = some (result, b', w')) :
    Stays ops b w (b', w') := by
  induction fuel generalizing b w with
  | zero => cases h
  | succ fuel ih =>
    have hstep := bulkStep_stays ops q b w
    rw [bulkReceiveLoop] at h
    split at h <;> rename_i heq <;> rw [heq] at hstep
    · cases h
      exact hstep
    · exact hstep.trans (ih h)

/-- Waiting for an answer; out of a session nothing happens. -/
theorem brokerReceive_stays (h : brokerReceive ops.toBrokerOps q fuel b w = some (result, b', w')) :
    Stays ops b w (b', w') ∧ (b.active = false → b' = b ∧ w' = w) := by
  rw [brokerReceive] at h
  split_ifs at h with hclosed
  · cases h
    exact ⟨.buffered _ rfl, fun _ => ⟨rfl, rfl⟩⟩
  · exact ⟨receiveLoop_stays ops q h, fun ha => absurd (.inr (.inl ha)) hclosed⟩

theorem bulkReceive_walk (h : bulkReceive ops.toBrokerOps q fuel b w = some (result, b', w')) :
    Walk ops .rest b w .rest b' w' := by
  rw [bulkReceive] at h
  split_ifs at h with hclosed
  · cases h
    exact .refl _ _ _
  · exact (bulkReceiveLoop_stays ops q h).during (by simp_all [Broker.bulkClosed])

/-- The payload of an acknowledgement has a rule of its own, whatever the limits are. -/
theorem payloadAllowed_ack {next window : BitVec 32} (hnext : next ≠ 0#32) (hwindow : window ≠ 0#32)
    (control data : ℕ) :
    PayloadAllowed control data messageAck (writeU32Be next ++ writeU32Be window) := by
  rw [PayloadAllowed, if_neg (by decide), if_pos rfl]
  refine ⟨by simp [ackPayloadSize], by simpa using hnext, ?_⟩
  rw [List.drop_left' (writeU32Be_length next), readU32Be_self]
  exact hwindow

theorem payloadAllowed_empty {type : MessageType} (htype : type = messageCancel ∨ type = messageComplete)
    (control data : ℕ) : PayloadAllowed control data type [] := by
  rcases htype with rfl | rfl <;> rfl

theorem payloadAllowed_request {control data : ℕ} {requestBody : Octets}
    (h : ¬ control < requestBody.length) :
    PayloadAllowed control data messageRequest requestBody := by
  rw [PayloadAllowed, if_neg (by decide), if_neg (by decide), if_neg (by decide)]
  exact Nat.not_lt.mp h

theorem bulkAck_walk (next window : BitVec 32) (b : Broker) (w : σ) :
    Walk ops .rest b w .rest (bulkAck ops.toBrokerOps next window b w).2.1
      (bulkAck ops.toBrokerOps next window b w).2.2 := by
  rw [bulkAck]
  split_ifs with hclosed hargs
  · exact .refl _ b w
  · exact .refl _ b w
  · have ha : b.active = true := by simp_all [Broker.bulkClosed]
    have hwindow : window = bulkWindow := by tauto
    have hclock := remainingTimeout_stays ops b b w
    split <;> rename_i heq <;> rw [heq] at hclock
    · exact Stays.during (hclock.trans (.buffered _ rfl)) ha
    · rename_i remainingMs w₁
      have hallowed := payloadAllowed_ack (fun h : next = 0#32 => hargs (.inl h))
        (by rw [hwindow]; decide : window ≠ 0#32) b.limits.controlPayloadMax b.limits.dataPayloadMax
      have hsent := sendFrame_stays ops
        ⟨b.service, messageAck, 0#8, b.requestId, b.bulkNextAckSequence⟩ b w₁ remainingMs hallowed
      simp only
      split <;> rename_i heq <;> rw [heq] at hsent
      · exact Stays.during ((hclock.trans hsent).trans (.buffered _ rfl)) ha
      · exact Stays.during ((hclock.trans hsent).trans (.buffered _ rfl)) ha

/-! ### The end of a session -/

/-- A CANCEL, the cancellation of the transport, and the close. -/
theorem cancelled_walk (b : Broker) (w : σ) :
    Walk ops .governed b w .rest
      (finishSession ops.toBrokerOps false (emitCancel ops b w).2.1
        (ops.cancel (emitCancel ops b w).2.1.requestId (emitCancel ops b w).2.2).2).2.1
      (finishSession ops.toBrokerOps false (emitCancel ops b w).2.1
        (ops.cancel (emitCancel ops b w).2.1.requestId (emitCancel ops b w).2.2).2).2.2 := by
  have hsent := (sendFrame_stays ops ⟨b.service, messageCancel, 0#8, b.requestId, 1#32⟩ b w
    brokerCancelTimeoutMs (payloadAllowed_empty (.inl rfl) _ _)).1
  exact ((hsent.trans (.cancel _ _ _)).trans (.leave _ _)).trans (.finished _ _ false)

/-- An active session that is given up. -/
theorem abortUploadSession_walk (primary : Status) (ha : b.active = true) (w : σ) :
    Walk ops .governed b w .rest (abortUploadSession ops primary b w).2.1
        (abortUploadSession ops primary b w).2.2 ∧
      (abortUploadSession ops primary b w).1 = primary := by
  rw [abortUploadSession, if_pos ha]
  exact ⟨cancelled_walk ops b w, rfl⟩

theorem brokerCancel_walk (b : Broker) (w : σ) :
    Walk ops .rest b w .rest (brokerCancel ops b w).2.1 (brokerCancel ops b w).2.2 := by
  rw [brokerCancel]
  split_ifs with hidle
  · exact .refl _ b w
  · exact (Walk.resume w (by simp_all)).trans (cancelled_walk ops b w)

theorem bulkFinish_walk (b : Broker) (w : σ) :
    Walk ops .rest b w .rest (bulkFinish ops.toBrokerOps b w).2.1
      (bulkFinish ops.toBrokerOps b w).2.2 := by
  rw [bulkFinish]
  split_ifs with hclosed
  · exact .refl _ b w
  · exact Stays.ending (.buffered w rfl) (by simp_all [Broker.bulkClosed]) (.finished b w false)

theorem uploadFinish_walk (b : Broker) (w : σ) :
    Walk ops .rest b w .rest (uploadFinish ops b w).2.1 (uploadFinish ops b w).2.2 := by
  rw [uploadFinish]
  split_ifs with hclosed
  · exact .refl _ b w
  · exact Stays.ending (.buffered w rfl) (by simp_all) (.finished b w false)

/-! ### The beginning of a session -/

/-- A call that begins a session leaves an active one behind it when it succeeds. -/
def Begun (p : SessionPhase) (b : Broker) (w : σ) (r : Status × Broker × σ) : Prop :=
  Walk ops p b w .rest r.2.1 r.2.2 ∧ (r.1 = .ok → r.2.1.active = true)

variable {ops} in
theorem Begun.after {p p₁ : SessionPhase} {r : Status × Broker × σ}
    (h : Walk ops p b w p₁ b₁ w₁) (h' : Begun ops p₁ b₁ w₁ r) : Begun ops p b w r :=
  ⟨h.trans h'.1, h'.2⟩

theorem abandonSession_begun {status : Status} (hne : status ≠ .ok) (b : Broker) (w : σ) :
    Begun ops .opened b w (abandonSession ops.toBrokerOps status b w) :=
  ⟨.finished b w false, fun hok => absurd hok hne⟩

/-- `bulkOpen` sends its request like the other calls. -/
theorem bulkOpen_eq_emitFrame {σ : Type} (ops : BrokerOps σ) (service : ServiceId)
    (requestBody : Octets) (exactDataSize : ℕ) (b : Broker) (w : σ) :
    bulkOpen ops service requestBody exactDataSize b w =
      match queryEffectiveLimits ops b w with
      | (.ok, b, w) =>
        if b.limits.controlPayloadMax < requestBody.length ∨ b.limits.dataPayloadMax = 0 ∨
            b.limits.dataPayloadMax * (uint32Max.toNat - 1) < exactDataSize then
          abandonSession ops .errLimit b w
        else
          match emitFrame ops ⟨service, messageRequest, 0#8, b.requestId, 0#32⟩ requestBody b w with
          | (.ok, b, w) =>
            let b := { b with
              service, active := true, bulkMode := true, bulkExactDataSize := exactDataSize
              stream := streamInit service b.requestId uint64Max }
            if b.stream.initialized then (.ok, b, w) else abandonSession ops .errState b w
          | (status, b, w) => abandonSession ops status b w
      | (status, b, w) => abandonSession ops status b w := by
  rw [bulkOpen]
  rcases queryEffectiveLimits ops b w with ⟨status, b₁, w₁⟩
  cases status
  case ok =>
    simp only
    by_cases hbig : b₁.limits.controlPayloadMax < requestBody.length ∨ b₁.limits.dataPayloadMax = 0 ∨
        b₁.limits.dataPayloadMax * (uint32Max.toNat - 1) < exactDataSize
    · rw [if_pos hbig, if_pos hbig]
    rw [if_neg hbig, if_neg hbig, emitFrame]
    rcases frameEncode ⟨service, messageRequest, 0#8, b₁.requestId, 0#32⟩ requestBody
      b₁.storage.rawScratchCap b₁.storage.encoded with ⟨status, encoded, written⟩
    cases status
    case ok =>
      simp only
      rcases heq : remainingTimeout ops { b₁ with
        storage.encoded := encoded
        rawScratch := encodeScratch ⟨service, messageRequest, 0#8, b₁.requestId, 0#32⟩ requestBody
          b₁.storage.encoded.length b₁.rawScratch } w₁ with ⟨status | remainingMs, w₂⟩
      · have hne : status ≠ .ok := by
          rintro rfl
          exact remainingTimeout_ne_error_ok ops heq
        cases status <;> first | exact absurd rfl hne | rfl
      · rcases hs : ops.send (encoded.take written) remainingMs w₂ with ⟨status, w₃⟩
        simp only [hs]
        cases status <;> rfl
    all_goals rfl
  all_goals rfl

/-- The limits are asked for, and a call that does not get them gives up. -/
theorem Begun.of_limits {r : Status × Broker × σ} (b : Broker) (w : σ)
    (hok : ∀ {b₁ w₁}, queryEffectiveLimits ops.toBrokerOps b w = (.ok, b₁, w₁) →
      Begun ops .governed b₁ w₁ r)
    (hfailed : ∀ {status b₁ w₁}, status ≠ .ok →
      queryEffectiveLimits ops.toBrokerOps b w = (status, b₁, w₁) →
      r = abandonSession ops.toBrokerOps status b₁ w₁) : Begun ops .opened b w r := by
  rcases hquery : queryEffectiveLimits ops.toBrokerOps b w with ⟨status, b₁, w₁⟩
  by_cases hstatus : status = .ok
  · subst hstatus
    exact .after (.governed hquery) (hok hquery)
  · have hasked : Walk ops .opened b w .opened _ _ := .ask b w
    rw [hquery] at hasked
    rw [hfailed hstatus hquery]
    exact .after hasked (abandonSession_begun ops hstatus b₁ w₁)

variable {ops} in
/-- A call that fails in an open session. -/
theorem Begun.abandoned {status : Status} (hne : status ≠ .ok)
    (h : Walk ops .governed b w .governed b₁ w₁) :
    Begun ops .governed b w (abandonSession ops.toBrokerOps status b₁ w₁) :=
  .after (h.trans (.leave b₁ w₁)) (abandonSession_begun ops hne b₁ w₁)

variable {ops} in
/-- The session becomes active. -/
theorem Walk.activated (h : Walk ops .governed b w .governed b₁ w₁)
    (hshell : b'.shell = { b₁.shell with active := true }) (hlimits : b'.limits = b₁.limits) :
    Walk ops .governed b w .governed b' w₁ := by
  have hactive : b'.active = true := congrArg Shell.active hshell
  refine h.trans (.inner w₁ ?_ (fun _ => hactive) hlimits)
  rw [hshell, hactive]

variable {ops} in
theorem Begun.active {p : SessionPhase} (h : Walk ops p b w .governed b₁ w₁) (ha : b₁.active = true) :
    Begun ops p b w (.ok, b₁, w₁) :=
  ⟨h.trans (.live w₁ ha), fun _ => ha⟩

theorem bulkOpen_begun (service : ServiceId) (requestBody : Octets) (exactDataSize : ℕ) (b : Broker)
    (w : σ) : Begun ops .opened b w (bulkOpen ops.toBrokerOps service requestBody exactDataSize b w) := by
  rw [bulkOpen_eq_emitFrame]
  refine .of_limits ops b w (fun {b₁ w₁} hquery => ?_) fun {status b₁ w₁} hne hquery => ?_
  · rw [hquery]
    simp only
    split_ifs with hbig
    · exact .abandoned (by nofun) (.refl _ b₁ w₁)
    · have hsent := (emitFrame_stays ops ⟨service, messageRequest, 0#8, b₁.requestId, 0#32⟩ b₁ w₁
        (payloadAllowed_request fun hlt => hbig (.inl hlt))).1
      split <;> rename_i heq <;> rw [heq] at hsent
      · split_ifs
        · exact .active (hsent.activated rfl rfl) rfl
        · exact .abandoned (by nofun) (hsent.activated rfl rfl)
      · exact .abandoned ‹_› hsent
  · rw [hquery]
    cases status <;> first | exact absurd rfl hne | rfl

theorem uploadOpen_begun (service : ServiceId) (requestBody : Octets) (b : Broker) (w : σ) :
    Begun ops .opened b w (uploadOpen ops service requestBody b w) := by
  rw [uploadOpen]
  refine .of_limits ops b w (fun {b₁ w₁} hquery => ?_) fun {status b₁ w₁} hne hquery => ?_
  · rw [hquery]
    simp only
    split_ifs with hbig
    · exact .abandoned (by nofun) (.refl _ b₁ w₁)
    · exact .abandoned (by nofun) (.inner w₁ rfl id rfl)
    · have hactive : Walk ops .governed b₁ w₁ .governed { b₁ with
          service, uploadMode := true, uploadNextSequence := 0#32, active := true
          stream := streamInit service b₁.requestId b₁.limits.controlPayloadMax } w₁ :=
        (Walk.refl _ b₁ w₁).activated rfl rfl
      have hsent := emitFrame_stays ops ⟨service, messageRequest, 0#8, b₁.requestId, 0#32⟩ { b₁ with
          service, uploadMode := true, uploadNextSequence := 0#32, active := true
          stream := streamInit service b₁.requestId b₁.limits.controlPayloadMax } w₁
        (payloadAllowed_request fun hlt => hbig (.inl hlt))
      split <;> rename_i heq <;> rw [heq] at hsent
      · exact .active (hactive.trans hsent.1) (hsent.active rfl)
      · obtain ⟨haborted, hstatus⟩ := abortUploadSession_walk ops _ (hsent.active rfl) _
        exact ⟨(hactive.trans hsent.1).trans haborted, fun hok => absurd (hstatus.symm.trans hok) ‹_›⟩
  · rw [hquery]
    cases status <;> first | exact absurd rfl hne | rfl

theorem requestOpen_begun (service : ServiceId) (requestBody : Octets) (b : Broker) (w : σ) :
    Begun ops .opened b w (requestOpen ops service requestBody b w) := by
  rw [requestOpen]
  refine .of_limits ops b w (fun {b₁ w₁} hquery => ?_) fun {status b₁ w₁} hne hquery => ?_
  · rw [hquery]
    simp only
    split_ifs with hbig
    · exact .abandoned (by nofun) (.refl _ b₁ w₁)
    · have hsent := (emitFrame_stays ops ⟨service, messageRequest, 0#8, b₁.requestId, 0#32⟩ b₁ w₁
        (payloadAllowed_request hbig)).1
      split <;> rename_i heq <;> rw [heq] at hsent
      · split_ifs
        · exact .abandoned (by nofun) (hsent.activated rfl rfl)
        · refine .active (hsent.activated ?_ rfl) rfl
          simp only [Broker.shell, recordReaderReset_initialized]
      · exact .abandoned ‹_› hsent
  · rw [hquery]
    cases status <;> first | exact absurd rfl hne | rfl

theorem beginDeadline_ok {ops : BrokerOps σ} {timeoutMs : BitVec 32}
    (h : beginDeadline ops timeoutMs b w = (.ok, b', w')) :
    ∃ deadlineMs, b' = { b with deadlineMs, deadlineActive := true } := by
  rw [beginDeadline] at h
  split at h
  · simp only [Prod.mk.injEq] at h
    exact ⟨_, h.2.1.symm⟩
  · rename_i hne _
    simp only [Prod.mk.injEq] at h
    exact absurd h.1 hne

theorem beginDeadline_failed {ops : BrokerOps σ} {timeoutMs : BitVec 32} {status : Status}
    (hne : ¬ status = .ok) (h : beginDeadline ops timeoutMs b w = (status, b', w')) : b' = b := by
  rw [beginDeadline] at h
  split at h
  · exact absurd (congrArg Prod.fst h).symm hne
  · simp only [Prod.mk.injEq] at h
    exact h.2.1.symm

/-- The frame of the calls that begin a session: `setUp` is what they do with the open transport,
`tidy` what they do when there is none. -/
def beginSession {σ : Type} (ops : BrokerOps σ) (timeoutMs : BitVec 32)
    (setUp : Broker → σ → Status × Broker × σ) (tidy : Broker → Broker) (b : Broker) (w : σ) :
    Status × Broker × σ :=
  match beginDeadline ops timeoutMs b w with
  | (.ok, b, w) =>
    match ops.openTransport w with
    | (.ok, w) => setUp { b with opened := true } w
    | (status, w) =>
      (status, tidy { b with deadlineActive := false, requestId := requestIdZero }, w)
  | (status, b, w) => (status, tidy { b with requestId := requestIdZero }, w)

theorem beginSession_begun {setUp : Broker → σ → Status × Broker × σ} {tidy : Broker → Broker}
    (hsetUp : ∀ b w, Begun ops .opened b w (setUp b w))
    (htidy : tidy = id ∨ tidy = wipeRequestStorage false) (timeoutMs : BitVec 32) (b : Broker) (w : σ) :
    Begun ops .prepared b w (beginSession ops.toBrokerOps timeoutMs setUp tidy b w) := by
  have hclock : Walk ops .prepared b w .prepared b (beginDeadline ops.toBrokerOps timeoutMs b w).2.2 := by
    have hread : Walk ops .prepared b w .prepared b (ops.monotonicMs w).2.2 := .start b w
    rw [beginDeadline]
    split <;> rename_i heq <;> rw [heq] at hread <;> exact hread
  rw [beginSession]
  split <;> rename_i heq <;> rw [heq] at hclock
  · obtain ⟨deadlineMs, rfl⟩ := beginDeadline_ok heq
    split <;> rename_i hopen
    · exact .after (hclock.trans (.connect b hopen deadlineMs)) (hsetUp _ _)
    · refine ⟨(hclock.trans (.refused b ‹_› hopen)).trans (.giveUp b _ deadlineMs (by nofun) htidy),
        fun hok => absurd hok ‹_›⟩
  · obtain rfl := beginDeadline_failed ‹_› heq
    exact ⟨hclock.trans (.giveUp _ _ _ id htidy), fun hok => absurd hok ‹_›⟩

theorem bulkBegin_walk (service : ServiceId) (requestId : RequestId) (requestBody : Octets)
    (exactDataSize : ℕ) (timeoutMs : BitVec 32) (b : Broker) (w : σ) :
    Walk ops .rest b w .rest
      (bulkBegin ops.toBrokerOps service requestId requestBody exactDataSize timeoutMs b w).2.1
      (bulkBegin ops.toBrokerOps service requestId requestBody exactDataSize timeoutMs b w).2.2 := by
  rw [bulkBegin]
  split_ifs with harg hinit hservice hbusy
  case neg =>
    have hprepared : Walk ops .rest b w .prepared _ w :=
      .prepare w (by simp_all) (by simp_all) (by simp_all) requestId
    exact hprepared.trans (beginSession_begun ops
      (bulkOpen_begun ops service requestBody exactDataSize) (.inr rfl) timeoutMs _ w).1
  all_goals exact .refl _ b w

theorem uploadBegin_walk (service : ServiceId) (requestId : RequestId) (requestBody : Octets)
    (timeoutMs : BitVec 32) (b : Broker) (w : σ) :
    Walk ops .rest b w .rest (uploadBegin ops service requestId requestBody timeoutMs b w).2.1
      (uploadBegin ops service requestId requestBody timeoutMs b w).2.2 := by
  rw [uploadBegin]
  split_ifs with harg hstate hservice
  case neg =>
    have hprepared : Walk ops .rest b w .prepared _ w :=
      .prepare w (by simp_all) (by simp_all) (by simp_all) requestId
    exact hprepared.trans (beginSession_begun ops (uploadOpen_begun ops service requestBody) (.inl rfl)
      timeoutMs _ w).1
  all_goals exact .refl _ b w

/-! ### Uploads and requests -/

theorem uploadRecords_walk {payload : Octets} (hp : payload.length ≤ b.limits.dataPayloadMax)
    (finalRecord : Bool) (w : σ) :
    Walk ops .governed b w .governed (uploadRecords ops payload finalRecord b w).2.1
        (uploadRecords ops payload finalRecord b w).2.2 ∧
      (uploadRecords ops payload finalRecord b w).2.1.shell = b.shell := by
  have hallowed : PayloadAllowed b.limits.controlPayloadMax b.limits.dataPayloadMax messageData
      payload := hp
  obtain ⟨hsent, houtline⟩ := emitFrame_stays ops
    ⟨b.service, messageData, 0#8, b.requestId, b.uploadNextSequence⟩ b w hallowed
  have hshell := congrArg Outline.shell houtline
  rw [uploadRecords]
  split <;> rename_i heq <;> rw [uploadEmit] at heq <;> rw [heq] at hsent hshell
  · rename_i b₁ w₁
    have hcounted : Walk ops .governed b w .governed
        { b₁ with uploadNextSequence := b₁.uploadNextSequence + 1#32 } w₁ :=
      hsent.trans (.inner w₁ rfl id rfl)
    simp only
    split_ifs
    · obtain ⟨hlast, hkept⟩ := emitFrame_stays ops
        ⟨b₁.service, messageComplete, 0#8, b₁.requestId, b₁.uploadNextSequence + 1#32⟩
        { b₁ with uploadNextSequence := b₁.uploadNextSequence + 1#32 } w₁
        (payloadAllowed_empty (.inr rfl) _ _)
      exact ⟨hcounted.trans hlast, (congrArg Outline.shell hkept).trans hshell⟩
    · exact ⟨hcounted, hshell⟩
  · exact ⟨hsent, hshell⟩

theorem uploadAnswer_walk {result : Except Status (Option Response)} (ha : b.active = true)
    (h : uploadAnswer ops q fuel b w = some (result, b', w')) :
    Walk ops .governed b w .rest b' w' := by
  have hwaiting : Walk ops .governed b w .governed { b with uploadMode := false } w :=
    .inner w rfl id rfl
  rw [uploadAnswer] at h
  split at h
  · cases h
  all_goals
    rename_i heq
    have hreceived := (brokerReceive_stays ops q heq).1
    cases h
  · exact (hwaiting.trans hreceived.1).trans (abortUploadSession_walk ops _ (hreceived.active ha) _).1
  · refine (hwaiting.trans hreceived.1).trans (.trans ?_ (.live w' (hreceived.active ha)))
    exact .inner w' rfl id rfl

theorem uploadSend_walk {payload : Octets} {finalRecord : Bool}
    {result : Except Status (Option Response)}
    (h : uploadSend ops q fuel payload finalRecord b w = some (result, b', w')) :
    Walk ops .rest b w .rest b' w' := by
  rw [uploadSend] at h
  by_cases hrefused : payload.length = 0 ∨
      (b.initialized = false ∨ b.active = false ∨ b.uploadMode = false ∨ b.bulkMode)
  · have hsame : (b, w) = (b', w') := by
      split_ifs at h <;> simp_all
    cases hsame
    exact .refl _ b w
  obtain ⟨hempty, hstate⟩ := not_or.mp hrefused
  have ha : b.active = true := by simp_all
  have hresumed : Walk ops .rest b w .governed b w := .resume w ha
  rw [if_neg hempty, if_neg hstate] at h
  split at h
  · cases h
    exact hresumed.trans (abortUploadSession_walk ops _ ha w).1
  · rename_i hbig
    have hfits : payload.length ≤ b.limits.dataPayloadMax := Nat.not_lt.mp fun hlt => hbig (.inl hlt)
    obtain ⟨hsent, hshell⟩ := uploadRecords_walk ops hfits finalRecord w
    split at h <;> rename_i heq <;> rw [heq] at hsent hshell
    all_goals have hactive : _ = true := (congrArg Shell.active hshell).trans ha
    · split_ifs at h
      · exact (hresumed.trans hsent).trans (uploadAnswer_walk ops q hactive h)
      · cases h
        exact (hresumed.trans hsent).trans (.live _ hactive)
    · cases h
      exact (hresumed.trans hsent).trans (abortUploadSession_walk ops _ hactive _).1

theorem requestAnswer_walk (ha : b.active = true)
    (h : requestAnswer ops q fuel b w = some (result, b', w')) : Walk ops .rest b w .rest b' w' := by
  rw [requestAnswer] at h
  split at h
  · cases h
  all_goals
    rename_i heq
    have hreceived := (brokerReceive_stays ops q heq).1
  · cases h
    exact (hreceived.during ha).trans (brokerCancel_walk ops _ _)
  · cases h
    exact hreceived.ending ha (.finished _ _ false)
  · rename_i response b₁ w₁
    have hplain : Walk ops .opened b₁ w₁ .rest _ _ := .finished b₁ w₁ true
    have hwiped : ∀ decoded, Walk ops .opened b₁ w₁ .rest _ _ := .finish b₁ w₁ true
    rw [Option.some.injEq, requestSettle] at h
    split at h <;> rename_i heq <;> rw [heq] at hplain hwiped <;> cases h
    · exact hreceived.ending ha hplain
    · exact hreceived.ending ha (hwiped _)

theorem requestNumber_walk (supplied : Option RequestId) (b : Broker) (w : σ) :
    Walk ops .prepared b w .prepared b (requestNumber ops supplied w).2 := by
  cases supplied with
  | some requestId => exact .refl _ b w
  | none =>
    have hdrawn : Walk ops .prepared b w .prepared b (ops.random w).2.2 := .random b w
    simp only [requestNumber]
    split <;> rename_i heq <;> rw [heq] at hdrawn <;> exact hdrawn

theorem brokerRequest_walk {service : ServiceId} {supplied : Option RequestId} {requestBody : Octets}
    {timeoutMs : BitVec 32}
    (h : brokerRequest ops q fuel service supplied requestBody timeoutMs b w = some (result, b', w')) :
    Walk ops .rest b w .rest b' w' := by
  rw [brokerRequest] at h
  split_ifs at h with harg hinit hservice hbusy
  case neg =>
    have hprepared : Walk ops .rest b w .prepared _ w :=
      .prepare w (by simp_all) (by simp_all) (by simp_all) requestIdZero
    have hnumber := hprepared.trans (requestNumber_walk ops supplied _ w)
    simp only at h
    split at h <;> rename_i heq <;> rw [heq] at hnumber
    · -- no number to be had
      cases h
      exact hnumber.trans (.giveUp _ _ b.deadlineMs id (.inl rfl))
    · rename_i requestId w₁
      obtain ⟨hbegun, hactive⟩ := beginSession_begun ops (requestOpen_begun ops service requestBody)
        (.inr rfl) timeoutMs { wipeRequestStorage false b with
          reader := recordReaderReset b.reader, requestId } w₁
      have hall := (hnumber.trans (.number _ w₁ requestId)).trans hbegun
      split at h <;> rename_i heq
      · rw [show beginSession ops.toBrokerOps timeoutMs _ _ _ _ = _ from heq] at hall hactive
        exact hall.trans (requestAnswer_walk ops q (hactive rfl) h)
      · rw [show beginSession ops.toBrokerOps timeoutMs _ _ _ _ = _ from heq] at hall
        cases h
        exact hall
  all_goals
    cases h
    exact .refl _ _ _

/-- **Every call but a reset is a walk.** -/
theorem brokerCall_walk {call : BrokerCall} (h : brokerCall ops q fuel b w call = some (b', w')) :
    call = .reset ∨ Walk ops .rest b w .rest b' w' := by
  -- the calls that cannot wait return what they give
  have hret : ∀ {r : Broker × σ}, Walk ops .rest b w .rest r.1 r.2 → some r = some (b', w') →
      Walk ops .rest b w .rest b' w' := by
    rintro r hwalk ⟨⟩
    exact hwalk
  cases call with
  | reset => exact .inl rfl
  | bulkBegin service requestId requestBody exactDataSize timeoutMs =>
    exact .inr (hret (bulkBegin_walk ops _ _ _ _ _ b w) h)
  | bulkAck next window => exact .inr (hret (bulkAck_walk ops next window b w) h)
  | bulkFinish => exact .inr (hret (bulkFinish_walk ops b w) h)
  | uploadBegin service requestId requestBody timeoutMs =>
    exact .inr (hret (uploadBegin_walk ops _ _ _ _ b w) h)
  | uploadFinish => exact .inr (hret (uploadFinish_walk ops b w) h)
  | cancel => exact .inr (hret (brokerCancel_walk ops b w) h)
  | request service requestBody timeoutMs =>
    obtain ⟨⟨result, _, _⟩, hr, ⟨⟩⟩ := Option.map_eq_some_iff.mp h
    exact .inr (brokerRequest_walk ops q hr)
  | requestWithId service requestId requestBody timeoutMs =>
    obtain ⟨⟨result, _, _⟩, hr, ⟨⟩⟩ := Option.map_eq_some_iff.mp h
    exact .inr (brokerRequest_walk ops q hr)
  | receive =>
    obtain ⟨⟨result, _, _⟩, hr, ⟨⟩⟩ := Option.map_eq_some_iff.mp h
    obtain ⟨hreceived, hidle⟩ := brokerReceive_stays ops q hr
    by_cases ha : b.active = true
    · exact .inr (hreceived.during ha)
    · obtain ⟨rfl, rfl⟩ := hidle (Bool.of_not_eq_true ha)
      exact .inr (.refl _ _ _)
  | bulkReceive =>
    obtain ⟨⟨result, _, _⟩, hr, ⟨⟩⟩ := Option.map_eq_some_iff.mp h
    exact .inr (bulkReceive_walk ops q hr)
  | uploadSend payload finalRecord =>
    obtain ⟨⟨result, _, _⟩, hr, ⟨⟩⟩ := Option.map_eq_some_iff.mp h
    exact .inr (uploadSend_walk ops q hr)

/-- **A property that every walk and every reset keeps is kept by any number of calls.** -/
theorem brokerCalls_keep {P : Broker → σ → Prop}
    (hwalk : ∀ {b w b' w'}, P b w → Walk ops .rest b w .rest b' w' → P b' w')
    (hreset : ∀ {b w}, P b w → P (brokerReset ops b w).1 (brokerReset ops b w).2)
    {calls : List BrokerCall} (hb : P b w) (h : brokerCalls ops q fuel calls b w = some (b', w')) :
    P b' w' := by
  induction calls generalizing b w with
  | nil =>
    cases h
    exact hb
  | cons call calls ih =>
    rw [brokerCalls] at h
    split at h
    · cases h
    · rename_i b₁ w₁ heq
      refine ih ?_ h
      rcases brokerCall_walk ops q heq with rfl | hcall
      · have hb₁ := hreset hb
        rwa [show brokerReset ops b w = (b₁, w₁) from Option.some.inj heq] at hb₁
      · exact hwalk hb hcall

end Walks

end Pbns
