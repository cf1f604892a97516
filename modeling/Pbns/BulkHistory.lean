/-
Brokers as the bulk calls leave them, and the session a successful `bulkBegin`
opens.

`BulkHistory` collects the brokers that `brokerInit` and the bulk calls produce, in
any world.  They are all `WellFormed`: in particular nothing of an earlier session
is left when a new one may start, so `bulkBegin_ok` finds a fresh, healthy session.

* `Broker.Fit.walk` — every move of a call keeps the invariant;
* `bulkBegin_ok` — a session that opens is fresh.
-/
import Pbns.BulkSession
import Pbns.BrokerWalk

namespace Pbns

open Octets Guard

/-- The invariant of a broker between calls. -/
structure Broker.WellFormed (b : Broker) : Prop where
  initialized : b.initialized = true
  reader : b.reader.initialized = true
  receiveCap : 0 < b.storage.receiveCap
  inactive : b.opened = false → b.active = false
  emptied : b.opened = false → b.receiveOffset = 0 ∧ b.receiveLength = 0
  unbulked : b.opened = false →
    b.bulkReceivedDataSize = 0 ∧ b.bulkNextAckSequence = 0#32 ∧ b.bulkFailed = false

/-- The invariant in each phase of a session. -/
structure Broker.Fit (p : SessionPhase) (b : Broker) : Prop extends b.WellFormed where
  opened : match p with
    | .rest => True
    | .prepared => b.opened = false
    | .opened => b.opened = true
    | .governed => b.opened = true

/-- While the transport is open the invariant asks for little. -/
theorem Broker.WellFormed.of_opened {b b' : Broker} (h : b.WellFormed)
    (hi : b'.initialized = b.initialized) (hr : b'.reader.initialized = b.reader.initialized)
    (hc : b'.storage.receiveCap = b.storage.receiveCap) (ho : b'.opened = true) : b'.WellFormed := by
  have hopen : b'.opened ≠ false := by rw [ho]; decide
  exact ⟨hi.trans h.initialized, hr.trans h.reader, Nat.lt_of_lt_of_eq h.receiveCap hc.symm,
    fun hf => absurd hf hopen, fun hf => absurd hf hopen, fun hf => absurd hf hopen⟩

section Calls

variable {σ δ : Type} (ops : BrokerOps σ) (q : Qcbor δ) {b b' : Broker} {w w' : σ}
  {timeoutMs : BitVec 32}

theorem queryEffectiveLimits_fit (h : b.Fit .opened) (w : σ) :
    (queryEffectiveLimits ops b w).2.1.Fit .opened := by
  rcases hquery : queryEffectiveLimits ops b w with ⟨status, b', w'⟩
  obtain ⟨-, ⟨-, rfl⟩ | ⟨-, -, -, rfl⟩⟩ := queryEffectiveLimits_cases hquery
  · exact h
  · exact ⟨h.toWellFormed.of_opened rfl rfl rfl h.opened, h.opened⟩

/-- **Every move keeps the invariant.** -/
theorem Broker.Fit.walk {ops : SessionOps σ} {p p' : SessionPhase} (hwalk : Walk ops p b w p' b' w')
    (h : b.Fit p) : b'.Fit p' := by
  induction hwalk with
  | refl => exact h
  | trans _ _ ih ih' => exact ih' (ih h)
  | prepare w _ _ ho requestId =>
    exact { h with reader := (recordReaderReset_initialized _).trans h.reader, opened := ho }
  | number => exact { h with }
  | random => exact h
  | start => exact h
  | refused => exact h
  | giveUp b w deadlineMs _ htidy =>
    rcases htidy with rfl | rfl <;>
      exact { h with opened := trivial }
  | connect => exact ⟨h.toWellFormed.of_opened rfl rfl rfl rfl, rfl⟩
  | ask b w => exact queryEffectiveLimits_fit ops.toBrokerOps h w
  | @governed b b' w w' hquery =>
    have hfit := queryEffectiveLimits_fit ops.toBrokerOps h w
    rw [hquery] at hfit
    exact ⟨hfit.toWellFormed, hfit.opened⟩
  | inner w hshell _ _ =>
    have hopened := (congrArg Shell.opened hshell).trans h.opened
    exact ⟨h.toWellFormed.of_opened (congrArg Shell.initialized hshell)
      (congrArg Shell.readerInitialized hshell) (congrArg Shell.receiveCap hshell) hopened, hopened⟩
  | clock => exact h
  | send => exact h
  | receive => exact h
  | cancel => exact h
  | resume w ha =>
    refine ⟨h.toWellFormed, Bool.of_not_eq_false fun ho => ?_⟩
    cases ha.symm.trans (h.inactive ho)
  | live => exact ⟨h.toWellFormed, trivial⟩
  | leave => exact ⟨h.toWellFormed, h.opened⟩
  | finish =>
    exact ⟨⟨h.initialized, (recordReaderReset_initialized _).trans h.reader, h.receiveCap,
      fun _ => rfl, fun _ => ⟨rfl, rfl⟩, fun _ => ⟨rfl, rfl, rfl⟩⟩, trivial⟩

/-- A call takes a well-formed broker to a well-formed one. -/
theorem Broker.WellFormed.walk {ops : SessionOps σ} (h : b.WellFormed)
    (hwalk : Walk ops .rest b w .rest b' w') : b'.WellFormed :=
  (Broker.Fit.walk hwalk ⟨h, trivial⟩).toWellFormed

/-- What `bulkOpen` needs to know about the broker it is given. -/
structure Broker.Opening (b : Broker) : Prop where
  initialized : b.initialized = true
  reader : Holding b.storage.encoded b.reader []
  receiveCap : 0 < b.storage.receiveCap
  opened : b.opened = true
  emptied : b.receiveOffset = 0 ∧ b.receiveLength = 0
  unbulked : b.bulkReceivedDataSize = 0 ∧ b.bulkNextAckSequence = 0#32 ∧ b.bulkFailed = false
  deadlineActive : b.deadlineActive = true

/-- A bulk session as `bulkBegin` opens it. -/
structure BulkFresh (service : ServiceId) (requestId : RequestId) (exactDataSize : ℕ) (b : Broker) :
    Prop where
  live : BulkLive b.plan b
  reader : Holding b.storage.encoded b.reader []
  unread : b.unread = []
  inBuffer : b.receiveLength ≤ b.receiveData.length
  receiveCap : 0 < b.storage.receiveCap
  notComplete : b.stream.complete = false
  sequence : b.stream.nextSequence = 0#32
  received : b.bulkReceivedDataSize = 0
  acks : b.bulkNextAckSequence = 0#32
  service : b.service = service
  requestId : b.requestId = requestId
  exactDataSize : b.bulkExactDataSize = exactDataSize
  deadline : 0#64 < b.deadlineMs

/-- There is time left only before the deadline. -/
theorem remainingTimeout_ok {remainingMs : BitVec 32}
    (h : remainingTimeout ops b w = (.ok remainingMs, w')) : 0#64 < b.deadlineMs := by
  rw [remainingTimeout] at h
  split_ifs at h
  · simp at h
  · split at h
    · split_ifs at h with hlate
      · simp at h
      · rw [BitVec.not_le, BitVec.lt_def] at hlate
        rw [BitVec.lt_def]
        exact Nat.lt_of_le_of_lt (Nat.zero_le _) hlate
    · simp at h

section Begin

variable {ops : BrokerOps σ} {service : ServiceId} {requestId : RequestId} {requestBody : Octets}
  {exactDataSize : ℕ}

/-- The broker a successful `bulkOpen` leaves. -/
theorem bulkOpen_inv (h : bulkOpen ops service requestBody exactDataSize b w = (.ok, b', w')) :
    ∃ limits encoded rawScratch, limitsAreValid (effectiveLimits b.storage limits) = true ∧
      exactDataSize ≤ (effectiveLimits b.storage limits).dataPayloadMax * (uint32Max.toNat - 1) ∧
      encoded.length = b.storage.encoded.length ∧ 0#64 < b.deadlineMs ∧
      b' = { b with
        limits := effectiveLimits b.storage limits, storage.encoded := encoded, rawScratch
        service, active := true, bulkMode := true, bulkExactDataSize := exactDataSize
        stream := streamInit service b.requestId uint64Max } := by
  rw [bulkOpen_eq_emitFrame] at h
  split at h <;> rename_i hquery
  · obtain ⟨-, ⟨hne, -⟩ | ⟨-, -, hvalid, rfl⟩⟩ := queryEffectiveLimits_cases hquery
    · exact absurd rfl hne
    split_ifs at h with hbig
    · cases h
    simp only at h hbig
    split at h <;> rename_i hemit
    · obtain ⟨encoded, rawScratch, hlen, rfl, ⟨hne, -⟩ | ⟨-, remainingMs, w₁, hrt, -⟩⟩ :=
        emitFrame_cases hemit
      · exact absurd rfl hne
      split_ifs at h <;> cases h
      exact ⟨_, encoded, rawScratch, hvalid, by omega, hlen, remainingTimeout_ok ops hrt, rfl⟩
    · exact absurd (congrArg Prod.fst h) ‹_›
  · exact absurd (congrArg Prod.fst h) ‹_›

/-- What a successful `bulkBegin` found, and the session it set up. -/
theorem bulkBegin_inv
    (h : bulkBegin ops service requestId requestBody exactDataSize timeoutMs b w = (.ok, b', w')) :
    serviceIsValid service = true ∧ b.opened = false ∧ ∃ deadlineMs w₁,
      bulkOpen ops service requestBody exactDataSize
        { wipeRequestStorage false b with
          reader := recordReaderReset b.reader, requestId, deadlineMs, deadlineActive := true
          opened := true } w₁ = (.ok, b', w') := by
  rw [bulkBegin] at h
  split_ifs at h with h1 h2 h3 h4
  case neg =>
    simp only at h
    split at h <;> rename_i hd
    · obtain ⟨deadlineMs, rfl⟩ := beginDeadline_ok hd
      split at h
      · exact ⟨by simpa using h3, by simp_all, deadlineMs, _, h⟩
      · exact absurd (congrArg Prod.fst h) ‹_›
    · exact absurd (congrArg Prod.fst h) ‹_›
  all_goals cases h

/-- A session that opens is fresh. -/
theorem bulkOpen_ok (hs : serviceIsValid service = true) (hb : b.Opening)
    (h : bulkOpen ops service requestBody exactDataSize b w = (.ok, b', w')) :
    BulkFresh service b.requestId exactDataSize b' := by
  obtain ⟨limits, encoded, rawScratch, hvalid, hfits, hlen, hdeadline, rfl⟩ := bulkOpen_inv h
  have hdata : (effectiveLimits b.storage limits).dataPayloadMax ≤ b.storage.decodedCap := by
    simp only [effectiveLimits]
    omega
  generalize effectiveLimits b.storage limits = limits at hvalid hfits hdata
  obtain ⟨-, hmax, -⟩ := limitsAreValid_iff.mp hvalid
  have hexact : exactDataSize ≤ 16384 * (2 ^ 32 - 2) :=
    Nat.le_trans hfits (Nat.mul_le_mul hmax (by decide))
  rw [streamInit_of_valid hs]
  exact {
    live := ⟨rfl, hb.initialized, rfl, rfl, hb.unbulked.2.2, hb.deadlineActive, rfl, rfl,
      rfl, rfl, rfl, hb.unbulked.1.symm, by simp only [hb.unbulked.1]; omega,
      fun hc => absurd hc (by simp [streamZero]), hvalid, hdata, hexact⟩
    reader := hb.reader.of_nil _
    unread := by simp [Broker.unread, hb.emptied]
    inBuffer := by simp [hb.emptied]
    receiveCap := hb.receiveCap
    notComplete := rfl
    sequence := rfl
    received := hb.unbulked.1
    acks := hb.unbulked.2.1
    service := rfl
    requestId := rfl
    exactDataSize := rfl
    deadline := hdeadline }

variable (h : bulkBegin ops service requestId requestBody exactDataSize timeoutMs b w = (.ok, b', w'))

include h

/-- **A successful `bulkBegin` opens a fresh session.** -/
theorem bulkBegin_ok (hb : b.WellFormed) : BulkFresh service requestId exactDataSize b' := by
  obtain ⟨hs, ho, deadlineMs, w₁, hopen⟩ := bulkBegin_inv h
  refine bulkOpen_ok hs ?_ hopen
  exact ⟨hb.initialized, holding_reset hb.reader _, hb.receiveCap, rfl, hb.emptied ho, hb.unbulked ho, rfl⟩

/-- The limits of a bulk session are the transport's within the memory. -/
theorem bulkBegin_limits : ∃ limits, b'.limits = effectiveLimits b'.storage limits := by
  obtain ⟨-, -, deadlineMs, w₁, hopen⟩ := bulkBegin_inv h
  obtain ⟨limits, encoded, rawScratch, -, -, hlen, -, rfl⟩ := bulkOpen_inv hopen
  exact ⟨limits, by simp only [effectiveLimits, hlen]⟩

end Begin

/-- The operations of a world without a random source, for calls that draw nothing from it. -/
def BrokerOps.session (ops : BrokerOps σ) : SessionOps σ where
  toBrokerOps := ops
  random w := (.errState, requestIdZero, w)
  cancel _ w := (.errState, w)

/-- **The brokers of a history**: initialised, and taken through bulk calls in any
world whatever they return. -/
inductive BulkHistory : Broker → Prop
  | init {storage : BrokerStorage} {b : Broker} (h : brokerInit storage = .ok b) : BulkHistory b
  | begin {b : Broker} (hb : BulkHistory b) (service : ServiceId) (requestId : RequestId)
      (requestBody : Octets) (exactDataSize : ℕ) (timeoutMs : BitVec 32) (w : σ) :
      BulkHistory (bulkBegin ops service requestId requestBody exactDataSize timeoutMs b w).2.1
  | receive {b b' : Broker} (hb : BulkHistory b) {fuel : ℕ} {w w' : σ}
      {result : Except Status Response} (h : bulkReceive ops q fuel b w = some (result, b', w')) :
      BulkHistory b'
  | ack {b : Broker} (hb : BulkHistory b) (next window : BitVec 32) (w : σ) :
      BulkHistory (bulkAck ops next window b w).2.1
  | finish {b : Broker} (hb : BulkHistory b) (w : σ) : BulkHistory (bulkFinish ops b w).2.1

theorem BulkHistory.wellFormed (h : BulkHistory ops q b) : b.WellFormed := by
  induction h with
  | init h =>
    simp only [brokerInit, rejectIf_bind_eq_ok, Bool.not_eq_false, Except.ok.injEq] at h
    obtain ⟨hv, rfl⟩ := h
    simp only [storageIsValid, Bool.and_eq_true, decide_eq_true_eq] at hv
    exact ⟨rfl, rfl, hv.1.2, fun _ => rfl, fun _ => ⟨rfl, rfl⟩, fun _ => ⟨rfl, rfl, rfl⟩⟩
  | begin _ service requestId requestBody exactDataSize timeoutMs w ih =>
    exact ih.walk (bulkBegin_walk ops.session service requestId requestBody exactDataSize timeoutMs _ w)
  | receive _ h ih => exact ih.walk (bulkReceive_walk ops.session q h)
  | ack _ next window w ih => exact ih.walk (bulkAck_walk ops.session next window _ w)
  | finish _ w ih => exact ih.walk (bulkFinish_walk ops.session _ w)

end Calls

end Pbns
