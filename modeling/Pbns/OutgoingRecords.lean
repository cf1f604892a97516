/-
The records the broker passes to the transport, against the limits the transport reports.

`query_effective_limits` takes over the payload limits, and every payload that is sent is held
against them.  The limit on the encoded record is taken over for the decoder alone: on the way
out nothing but the size of the memory bounds a record.  The operations are run here with the last
report and with the records sent under it (`SessionOps.metered`):

* `Metering.walk` — every move of a call keeps what holds in its phase;
* `Met.calls` — after any calls, each record was built within the payload limits of its report;
* `outgoing_records` — under a report that has room for the records of its payload limits, every
  record is within the report.
-/
import Pbns.BrokerLifecycle

namespace Pbns

open Octets Guard

/-- A record passed to the transport, with the limits the transport had reported last. -/
structure SentRecord where
  limits : FrameLimits
  record : Octets

/-- The world of a run, the last report of the transport and the records passed to it. -/
structure Metered (σ : Type) where
  world : σ
  reported : FrameLimits
  sent : List SentRecord

section Metered

variable {σ : Type}

/-- The operations, with the report and the records kept. -/
def BrokerOps.metered (ops : BrokerOps σ) : BrokerOps (Metered σ) where
  monotonicMs m := let (status, now, s) := ops.monotonicMs m.world; (status, now, { m with world := s })
  openTransport m := let (status, s) := ops.openTransport m.world; (status, { m with world := s })
  closeTransport m := let (status, s) := ops.closeTransport m.world; (status, { m with world := s })
  send record timeoutMs m :=
    let (status, s) := ops.send record timeoutMs m.world
    (status, { m with world := s, sent := m.sent ++ [⟨m.reported, record⟩] })
  receive cap timeoutMs m :=
    let (status, received, s) := ops.receive cap timeoutMs m.world
    (status, received, { m with world := s })
  limits m :=
    let (status, limits, s) := ops.limits m.world
    (status, limits, { m with world := s, reported := if status = .ok then limits else m.reported })

def SessionOps.metered (ops : SessionOps σ) : SessionOps (Metered σ) where
  toBrokerOps := ops.toBrokerOps.metered
  random m := let (status, requestId, s) := ops.random m.world; (status, requestId, { m with world := s })
  cancel requestId m := let (status, s) := ops.cancel requestId m.world; (status, { m with world := s })

end Metered

/-- The limits `query_effective_limits` makes of a report. -/
def clampedLimits (memory : MemorySizes) (limits : FrameLimits) : FrameLimits :=
  let payloadCapacity := memory.rawScratchCap - headerSize - trailerSize
  ⟨min limits.controlPayloadMax (min payloadCapacity memory.decodedCap),
    min limits.dataPayloadMax (min payloadCapacity memory.decodedCap),
    min limits.encodedRecordMax memory.encodedCap⟩

/-! ### Between the calls -/

/-- Every record so far is the record of a payload within the limits of its report. -/
structure Lawful {σ : Type} (sizes : MemorySizes) (b : Broker) (m : Metered σ) : Prop where
  memory : b.memory = sizes
  sent : ∀ s ∈ m.sent, Carried sizes (clampedLimits sizes s.limits) s.record

/-- The broker goes by the last report. -/
structure Governed {σ : Type} (sizes : MemorySizes) (b : Broker) (m : Metered σ) : Prop extends
    Lawful sizes b m where
  limits : b.limits = clampedLimits sizes m.reported

/-- The broker between two calls: in a session it goes by the last report. -/
structure Met {σ : Type} (sizes : MemorySizes) (b : Broker) (m : Metered σ) : Prop extends
    Lawful sizes b m where
  limits : b.active = true → b.limits = clampedLimits sizes m.reported

/-- What holds in each phase of a session. -/
def Metering {σ : Type} (sizes : MemorySizes) (b : Broker) (m : Metered σ) : SessionPhase → Prop
  | .rest => Met sizes b m
  | .prepared => Lawful sizes b m ∧ b.active = false
  | .opened => Lawful sizes b m
  | .governed => Governed sizes b m

section Between

variable {σ δ : Type} (ops : SessionOps σ) (q : Qcbor δ) {sizes : MemorySizes} {b b' : Broker}
  {m m' : Metered σ}

/-- Nothing is sent, and the memory keeps its sizes. -/
theorem Lawful.quiet (h : Lawful sizes b m) (hmemory : b'.memory = b.memory)
    (hsent : m'.sent = m.sent) : Lawful sizes b' m' :=
  ⟨hmemory.trans h.memory, by rw [hsent]; exact h.sent⟩

theorem Lawful.met (h : Lawful sizes b m) (ha : b.active = false) : Met sizes b m :=
  ⟨h, fun hb => absurd (hb.symm.trans ha) (by decide)⟩

/-- One record more, within the limits the broker goes by. -/
theorem Governed.send (h : Governed sizes b m) {record : Octets} (hc : Carried b.memory b.limits record)
    (timeoutMs : BitVec 32) : Governed sizes b (ops.metered.send record timeoutMs m).2 := by
  refine ⟨⟨h.memory, ?_⟩, h.limits⟩
  intro s hs
  rcases List.mem_append.mp hs with hs | hs
  · exact h.sent s hs
  · rw [List.mem_singleton.mp hs, ← h.limits, ← h.memory]
    exact hc

theorem wipeRequestStorage_memory (preserveDecoded : Bool) (b : Broker) :
    (wipeRequestStorage preserveDecoded b).memory = b.memory := by
  simp [Broker.memory, Broker.shell, Shell.memory, wipeRequestStorage]

theorem finishSession_met (h : Lawful sizes b m) (preserveDecoded : Bool) :
    Met sizes (finishSession ops.toBrokerOps.metered preserveDecoded b m).2.1
      (finishSession ops.toBrokerOps.metered preserveDecoded b m).2.2 := by
  refine Lawful.met (h.quiet (wipeRequestStorage_memory preserveDecoded _) ?_) rfl
  rw [finishSession]
  split_ifs <;> rfl

/-- Asking for the limits sends nothing, and a broker that accepts the answer goes by it. -/
theorem queryEffectiveLimits_lawful (h : Lawful sizes b m) :
    Lawful sizes (queryEffectiveLimits ops.toBrokerOps.metered b m).2.1
      (queryEffectiveLimits ops.toBrokerOps.metered b m).2.2 := by
  rw [queryEffectiveLimits]
  split
  · rename_i heq
    obtain rfl : _ = _ := congrArg (fun r => r.2.2) heq
    split_ifs <;> exact h.quiet rfl rfl
  · rename_i heq
    obtain rfl : _ = _ := congrArg (fun r => r.2.2) heq
    exact h.quiet rfl rfl

theorem queryEffectiveLimits_governed (h : Lawful sizes b m)
    (hq : queryEffectiveLimits ops.toBrokerOps.metered b m = (.ok, b', m')) :
    Governed sizes b' m' := by
  have hlawful := queryEffectiveLimits_lawful ops h
  rw [hq] at hlawful
  refine ⟨hlawful, ?_⟩
  rw [queryEffectiveLimits] at hq
  split at hq
  · rename_i limits m₁ heq
    split at hq
    · cases hq
    obtain ⟨rfl, rfl⟩ : _ ∧ _ := by simpa only [Prod.mk.injEq, true_and] using hq
    -- the report is noted because its status is ok
    have hreported : m₁.reported = limits := by
      have hstatus := congrArg (fun r => r.1) heq
      have hlimits := congrArg (fun r => r.2.1) heq
      have hworld := congrArg (fun r => r.2.2.reported) heq
      simp only [BrokerOps.metered] at hstatus hlimits hworld
      rw [← hworld, if_pos hstatus, hlimits]
    rw [hreported, ← h.memory]
    rfl
  · rename_i hne _
    exact absurd (congrArg Prod.fst hq) hne

/-- **Every move keeps its phase.** -/
theorem Metering.walk {p p' : SessionPhase} (hwalk : Walk ops.metered p b m p' b' m')
    (h : Metering sizes b m p) : Metering sizes b' m' p' := by
  induction hwalk with
  | refl => exact h
  | trans _ _ ih ih' => exact ih' (ih h)
  | prepare w _ ha _ requestId =>
    exact ⟨Lawful.quiet (Met.toLawful h) (wipeRequestStorage_memory false _) rfl, ha⟩
  | number b w requestId => exact ⟨h.1.quiet rfl rfl, h.2⟩
  | random b w => exact ⟨h.1.quiet rfl rfl, h.2⟩
  | start b w => exact ⟨h.1.quiet rfl rfl, h.2⟩
  | refused b _ hopen =>
    obtain rfl : _ = _ := congrArg Prod.snd hopen
    exact ⟨h.1.quiet rfl rfl, h.2⟩
  | giveUp b w deadlineMs _ htidy =>
    rcases htidy with rfl | rfl <;> refine Lawful.met (h.1.quiet ?_ rfl) h.2
    · rfl
    · exact wipeRequestStorage_memory false _
  | connect b hopen deadlineMs =>
    obtain rfl : _ = _ := congrArg Prod.snd hopen
    exact h.1.quiet rfl rfl
  | ask b w => exact queryEffectiveLimits_lawful ops h
  | governed hquery => exact queryEffectiveLimits_governed ops h hquery
  | inner w hshell _ hlimits =>
    have hmemory := congrArg Shell.memory hshell
    exact ⟨Lawful.quiet (Governed.toLawful h) hmemory rfl, hlimits.trans h.limits⟩
  | clock b w => exact ⟨h.toLawful.quiet rfl rfl, h.limits⟩
  | send w hcarried timeoutMs => exact Governed.send ops h hcarried timeoutMs
  | receive b w cap timeoutMs => exact ⟨h.toLawful.quiet rfl rfl, h.limits⟩
  | cancel b w requestId => exact ⟨h.toLawful.quiet rfl rfl, h.limits⟩
  | resume w ha => exact ⟨Met.toLawful h, Met.limits h ha⟩
  | live w _ => exact ⟨Governed.toLawful h, fun _ => Governed.limits h⟩
  | leave b w => exact h.toLawful
  | finish b w preserveDecoded decoded =>
    have hmet := finishSession_met ops h preserveDecoded
    exact ⟨hmet.toLawful.quiet rfl rfl, hmet.limits⟩

theorem brokerReset_met (h : Met sizes b m) :
    Met sizes (brokerReset ops.metered b m).1 (brokerReset ops.metered b m).2 := by
  have hzeroed : ∀ {b' : Broker} {m' : Metered σ}, Lawful sizes b' m' →
      Met sizes (wipeRequestStorage false b').zeroed m' := by
    intro b' m' h'
    exact Lawful.met (h'.quiet (wipeRequestStorage_memory false b') rfl) rfl
  rw [brokerReset]
  split_ifs
  · exact h
  · exact hzeroed (Metering.walk ops (brokerCancel_walk ops.metered b m) h).toLawful
  · exact hzeroed (h.toLawful.quiet rfl rfl)
  · exact hzeroed h.toLawful

/-- **Any number of calls.** -/
theorem Met.calls {fuel : ℕ} (h : Met sizes b m) {calls : List BrokerCall}
    (hr : brokerCalls ops.metered q fuel calls b m = some (b', m')) : Met sizes b' m' :=
  brokerCalls_keep ops.metered q (fun h hwalk => Metering.walk ops hwalk h) (brokerReset_met ops) h hr

end Between

/-! ### The law -/

/-- The report has room for the longest record of what its payload limits admit, or for
everything the memory has room for; and an acknowledgement is within its payload limits. -/
def FrameLimits.HasRoom (limits : FrameLimits) (sizes : MemorySizes) : Prop :=
  (recordRoom (max ackPayloadSize (max (clampedLimits sizes limits).controlPayloadMax
      (clampedLimits sizes limits).dataPayloadMax)) ≤ limits.encodedRecordMax ∨
    sizes.encodedCap ≤ limits.encodedRecordMax) ∧
  ackPayloadSize ≤ max limits.controlPayloadMax limits.dataPayloadMax

instance (limits : FrameLimits) (sizes : MemorySizes) : Decidable (limits.HasRoom sizes) :=
  inferInstanceAs (Decidable (_ ∧ _))

theorem PayloadAllowed.length_le_max {control data : ℕ} {type : MessageType} {payload : Octets}
    (h : PayloadAllowed control data type payload) :
    payload.length ≤ max ackPayloadSize (max control data) := by
  unfold PayloadAllowed at h
  split_ifs at h <;> omega

theorem recordRoom_mono {n n' : ℕ} (h : n ≤ n') : recordRoom n ≤ recordRoom n' := by
  unfold recordRoom
  have := Nat.div_le_div_right (c := 254) (Nat.add_le_add_left h (headerSize + trailerSize))
  omega

theorem length_record_le (frame : Frame) (payload : Octets) :
    (stuffed frame payload ++ [0#8]).length ≤ recordRoom payload.length := by
  have := length_stuffed_le frame payload
  rw [List.length_append, List.length_singleton]
  unfold recordRoom headerSize trailerSize
  omega

/-- Under a report with room, a record is within the report. -/
theorem Carried.within {sizes : MemorySizes} {limits : FrameLimits} {record : Octets}
    (h : Carried sizes (clampedLimits sizes limits) record) (hroom : limits.HasRoom sizes) :
    record.length ≤ limits.encodedRecordMax := by
  obtain ⟨frame, payload, rfl, hallowed, hfits⟩ := h
  have hlength := length_record_le frame payload
  rcases hroom.1 with hlimit | hmemory
  · have hmono := recordRoom_mono hallowed.length_le_max
    exact Nat.le_trans hlength (Nat.le_trans hmono hlimit)
  · exact Nat.le_trans hlength (Nat.le_trans hfits hmemory)

/-- **Outgoing records respect the report of the transport when it has room.**  After any calls,
whatever the transport, the clock and the random source answer, every record passed to the
transport is that of a frame whose payload is within the payload limits reported for its type; and
when the report has room for the records of its payload limits, the record with its delimiter is
within the limit for records, and the payload of an acknowledgement within one of the others. -/
theorem outgoing_records {σ δ : Type} (ops : SessionOps σ) (q : Qcbor δ) (fuel : ℕ)
    {storage : BrokerStorage} {receiveData rawScratch decoded : Octets} {b₀ b : Broker} {w₀ : σ}
    {calls : List BrokerCall} {m : Metered σ} {reported : FrameLimits}
    (hinit : brokerInitOver storage receiveData rawScratch decoded = .ok b₀)
    (hrun : brokerCalls ops.metered q fuel calls b₀ ⟨w₀, reported, []⟩ = some (b, m)) :
    ∀ s ∈ m.sent, ∃ frame payload, s.record = stuffed frame payload ++ [0#8] ∧
      PayloadAllowed s.limits.controlPayloadMax s.limits.dataPayloadMax frame.type payload ∧
      (s.limits.HasRoom b₀.memory → s.record.length ≤ s.limits.encodedRecordMax ∧
        (payload.length ≤ s.limits.controlPayloadMax ∨
          payload.length ≤ s.limits.dataPayloadMax)) := by
  have hstart : Met b₀.memory b₀ (⟨w₀, reported, []⟩ : Metered σ) := by
    have hidle : b₀.active = false := by
      obtain ⟨_, _, _, _, rfl⟩ := brokerInitOver_fresh hinit
      rfl
    exact Lawful.met ⟨rfl, by simp⟩ hidle
  intro s hs
  have hcarried := (hstart.calls ops q hrun).sent s hs
  have hwithin := hcarried.within
  obtain ⟨frame, payload, hrecord, hallowed, -⟩ := hcarried
  have hreported : PayloadAllowed s.limits.controlPayloadMax s.limits.dataPayloadMax frame.type
      payload := hallowed.mono (Nat.min_le_left _ _) (Nat.min_le_left _ _)
  refine ⟨frame, payload, hrecord, hreported, fun hroom => ⟨hwithin hroom, ?_⟩⟩
  have hlength := hreported.length_le_max
  have hack := hroom.2
  omega

/-- A transport that reports the given limits. -/
def reportingOps (limits : FrameLimits) : SessionOps Playback :=
  { sampleOps with limits := fun w => (.ok, limits, w) }

/-- An upload that is begun. -/
def reportedUpload (limits : FrameLimits) : Option (Broker × Metered Playback) :=
  brokerCalls (reportingOps limits).metered sampleQcbor 10
    [.uploadBegin serviceRecoveryArtifact sampleRequestId [] 1000#32] (sampleBroker 1#8)
    ⟨⟨[], [], 0⟩, limits, []⟩

theorem outgoing_records_sample : ∃ b m, reportedUpload ⟨8, 8, 50⟩ = some (b, m) ∧
    m.sent.length = 1 ∧ ∀ s ∈ m.sent, s.record.length ≤ s.limits.encodedRecordMax := by
  have hrooms : (reportedUpload ⟨8, 8, 50⟩).map (fun r => (r.2.sent.length,
      r.2.sent.all fun s => decide (s.limits.HasRoom (sampleBroker 1#8).memory))) = some (1, true) := by
    decide +kernel
  obtain ⟨⟨b, m⟩, hrun, hm⟩ := Option.map_eq_some_iff.mp hrooms
  obtain ⟨hlen, hroom⟩ : _ ∧ _ := by simpa only [Prod.mk.injEq] using hm
  refine ⟨b, m, hrun, hlen, fun s hs => ?_⟩
  obtain ⟨frame, payload, -, -, hwithin⟩ := outgoing_records (reportingOps ⟨8, 8, 50⟩) sampleQcbor 10
    (sampleBroker_init 1#8) hrun s hs
  exact (hwithin (by simpa using List.all_eq_true.mp hroom s hs)).1

/-- The transport takes ten octets at most, and is handed a record of more than forty. -/
theorem outgoing_records_exceed : ∃ b m, reportedUpload ⟨8, 8, 10⟩ = some (b, m) ∧
    ∃ s ∈ m.sent, s.limits = ⟨8, 8, 10⟩ ∧ 40 < s.record.length := by
  have hlong : (reportedUpload ⟨8, 8, 10⟩).map (fun r => r.2.sent.any fun s =>
      decide (s.limits = ⟨8, 8, 10⟩ ∧ 40 < s.record.length)) = some true := by decide +kernel
  obtain ⟨⟨b, m⟩, hrun, hm⟩ := Option.map_eq_some_iff.mp hlong
  obtain ⟨s, hs, hlength⟩ := List.any_eq_true.mp hm
  exact ⟨b, m, hrun, s, hs, of_decide_eq_true hlength⟩

end Pbns
