/-
The life of a broker session, over any sequence of public calls and any behaviour of the
transport, the clock and the random source.

The operations are run together with the list of the calls they get (`SessionOps.traced`),
and `lifecycle` follows the transport through such a list: it gives up at a second open, at
a close without an open and at traffic outside a session.

* `Held.walk` — every move of a call keeps what holds in its phase;
* `Settled.calls` — between calls the session is closed and cleared, or live;
* `broker_lifecycle` — the same for the calls since `brokerInitOver`.
-/
import Pbns.BrokerWalk
import Pbns.BulkDelivery

namespace Pbns

open Octets Guard

/-- A call on the transport and its answer. -/
inductive TransportCall
  | openTransport (status : Status)
  | closeTransport (status : Status)
  | send (record : Octets) (status : Status)
  | receive (status : Status)
  | cancel (requestId : RequestId) (status : Status)
  deriving DecidableEq

/-- Whether the transport is open behind a call; `none` when the call is out of place. -/
def TransportCall.follow : Bool → TransportCall → Option Bool
  | false, .openTransport status => some (status = .ok)
  | true, .closeTransport _ => some false
  | true, .send _ _ => some true
  | true, .receive _ => some true
  | true, .cancel _ _ => some true
  | _, _ => none

/-- The calls in a list are all in place, and whether the transport is open behind them. -/
def lifecycle (isOpen : Bool) (log : List TransportCall) : Option Bool :=
  log.foldlM TransportCall.follow isOpen

theorem lifecycle_append (isOpen : Bool) (log log' : List TransportCall) :
    lifecycle isOpen (log ++ log') = (lifecycle isOpen log).bind (lifecycle · log') :=
  List.foldlM_append

theorem lifecycle_snoc {log : List TransportCall} {isOpen : Bool}
    (h : lifecycle false log = some isOpen) (c : TransportCall) :
    lifecycle false (log ++ [c]) = c.follow isOpen := by
  rw [lifecycle_append, h]
  exact bind_pure _

section Traced

variable {σ : Type}

/-- The operations, keeping the list of the transport calls. -/
def BrokerOps.traced (ops : BrokerOps σ) : BrokerOps (σ × List TransportCall) where
  monotonicMs w := let (status, now, s) := ops.monotonicMs w.1; (status, now, s, w.2)
  openTransport w := let (status, s) := ops.openTransport w.1; (status, s, w.2 ++ [.openTransport status])
  closeTransport w := let (status, s) := ops.closeTransport w.1; (status, s, w.2 ++ [.closeTransport status])
  send record timeoutMs w :=
    let (status, s) := ops.send record timeoutMs w.1
    (status, s, w.2 ++ [.send record status])
  receive cap timeoutMs w :=
    let (status, received, s) := ops.receive cap timeoutMs w.1
    (status, received, s, w.2 ++ [.receive status])
  limits w := let (status, limits, s) := ops.limits w.1; (status, limits, s, w.2)

def SessionOps.traced (ops : SessionOps σ) : SessionOps (σ × List TransportCall) where
  toBrokerOps := ops.toBrokerOps.traced
  random w := let (status, requestId, s) := ops.random w.1; (status, requestId, s, w.2)
  cancel requestId w :=
    let (status, s) := ops.cancel requestId w.1
    (status, s, w.2 ++ [.cancel requestId status])

end Traced

/-! ### Between the calls -/

/-- A broker as `pbns_broker_init` leaves it, with whatever its memory holds. -/
def Broker.Fresh (b₀ : Broker) : Prop :=
  ∃ storage receiveData rawScratch decoded,
    b₀ = { freshBroker storage with receiveData, rawScratch, decoded }

/-- The broker `b₀` with wiped memory.  What a session may leave behind in its place: the
limits, the deadline (which is not running) and an answer in the decoded memory; and whether
the broker was reset. -/
def Broker.cleared (b₀ : Broker) (initialized : Bool) (limits : FrameLimits)
    (deadlineMs : BitVec 64) (decoded : Octets) : Broker :=
  { b₀ with
    storage.encoded := List.replicate b₀.storage.encoded.length 0#8
    rawScratch := List.replicate b₀.storage.rawScratchCap 0#8
    receiveData := List.replicate b₀.storage.receiveCap 0#8
    initialized, reader.initialized := initialized, limits, deadlineMs, decoded }

/-- The broker during a session. -/
structure InSession (b₀ b : Broker) (log : List TransportCall) : Prop where
  isOpen : lifecycle false log = some true
  shell : b.shell = { b₀.shell with opened := true, active := b.active }

/-- The broker between two calls: as it was at the start, or cleared, or in a session. -/
inductive Settled {σ : Type} (b₀ : Broker) (w₀ : σ) (b : Broker) (w : σ × List TransportCall) : Prop
  | untouched (hb : b = b₀) (hw : w = (w₀, []))
  | cleared (isClosed : lifecycle false w.2 = some false)
      (hb : ∃ initialized limits deadlineMs decoded,
        b = b₀.cleared initialized limits deadlineMs decoded)
  | live (hb : InSession b₀ b w.2) (active : b.active = true)

section Between

variable {σ δ : Type} (ops : SessionOps σ) (q : Qcbor δ) {b₀ b b' : Broker} {w₀ : σ}
  {w w' : σ × List TransportCall}

/-! ### The phases of a session -/

/-- The broker with wiped memory and the number of its next request. -/
def Broker.Prepared (b₀ b : Broker) : Prop :=
  ∃ limits deadlineMs decoded requestId,
    b = { b₀.cleared true limits deadlineMs decoded with requestId }

/-- What holds in each phase. -/
def Held (b₀ : Broker) (w₀ : σ) (b : Broker) (w : σ × List TransportCall) : SessionPhase → Prop
  | .rest => Settled b₀ w₀ b w
  | .prepared => lifecycle false w.2 = some false ∧ b₀.Prepared b
  | .opened => InSession b₀ b w.2
  | .governed => InSession b₀ b w.2

variable (hb₀ : b₀.Fresh)

include hb₀

/-- The end of a session: everything but the limits and what was answered goes. -/
theorem finishSession_eq_cleared
    (h : b.shell = { b₀.shell with opened := true, active := b.active }) (preserveDecoded : Bool) :
    ∃ decoded, (finishSession ops.toBrokerOps.traced preserveDecoded b w).2.1
      = b₀.cleared true b.limits 0#64 decoded := by
  obtain ⟨storage, receiveData, rawScratch, decoded, rfl⟩ := hb₀
  simp only [Broker.shell, Shell.mk.injEq] at h
  obtain ⟨hinit, -, -, hreader, hencoded, hraw, hreceive, hdecoded⟩ := h
  refine ⟨if preserveDecoded then b.decoded else List.replicate b.storage.decodedCap 0#8, ?_⟩
  simp only [finishSession, wipeRequestStorage, Broker.cleared, freshBroker, recordReaderReset,
    hinit, hreader, hencoded, hraw, hreceive, hdecoded]
  rfl

theorem finishSession_closes (h : InSession b₀ b w.2) (preserveDecoded : Bool) :
    lifecycle false (finishSession ops.toBrokerOps.traced preserveDecoded b w).2.2.2 = some false ∧
      ∃ decoded, (finishSession ops.toBrokerOps.traced preserveDecoded b w).2.1
        = b₀.cleared true b.limits 0#64 decoded := by
  have hopened : b.opened = true := congrArg Shell.opened h.shell
  have hlog : (finishSession ops.toBrokerOps.traced preserveDecoded b w).2.2.2
      = w.2 ++ [.closeTransport (ops.closeTransport w.1).1] := by
    rw [finishSession, hopened]
    rfl
  refine ⟨?_, finishSession_eq_cleared ops hb₀ h.shell preserveDecoded⟩
  rw [hlog, lifecycle_snoc h.isOpen]
  rfl

/-- A broker that may begin a session. -/
structure Ready (b₀ b : Broker) (log : List TransportCall) : Prop where
  isClosed : lifecycle false log = some false
  cleared : b = b₀ ∨ ∃ limits deadlineMs decoded, b = b₀.cleared true limits deadlineMs decoded

theorem Ready.prepared (h : Ready b₀ b w.2) (requestId : RequestId) :
    b₀.Prepared { wipeRequestStorage false b with
      reader := recordReaderReset b.reader, requestId } := by
  obtain ⟨storage, receiveData, rawScratch, decoded, rfl⟩ := hb₀
  rcases h.cleared with rfl | ⟨limits, deadlineMs, decoded, rfl⟩
  · exact ⟨_, _, _, requestId, rfl⟩
  · refine ⟨limits, deadlineMs, List.replicate storage.decodedCap 0#8, requestId, ?_⟩
    simp only [wipeRequestStorage, Broker.cleared, freshBroker, List.length_replicate]
    rfl

omit hb₀ in
/-- A broker that is set up and in no session may begin one. -/
theorem Settled.ready (h : Settled b₀ w₀ b w) (hi : b.initialized = true) (ho : b.opened = false) :
    Ready b₀ b w.2 := by
  cases h with
  | untouched hb hw =>
    subst hw
    exact ⟨rfl, .inl hb⟩
  | cleared hclosed hb =>
    obtain ⟨initialized, limits, deadlineMs, decoded, rfl⟩ := hb
    obtain rfl : initialized = true := hi
    exact ⟨hclosed, .inr ⟨limits, deadlineMs, decoded, rfl⟩⟩
  | live hb _ =>
    have hopened : b.opened = true := congrArg Shell.opened hb.shell
    rw [ho] at hopened
    cases hopened

/-- A session that is given up before the transport is open leaves nothing to be seen. -/
theorem Broker.Prepared.given_up (h : b₀.Prepared b) (deadlineMs : BitVec 64)
    {deadlineActive : Bool} (hdeadline : deadlineActive = true → b.deadlineActive = true)
    {tidy : Broker → Broker} (htidy : tidy = id ∨ tidy = wipeRequestStorage false)
    (hclosed : lifecycle false w.2 = some false) :
    Settled b₀ w₀ (tidy { b with deadlineMs, deadlineActive, requestId := requestIdZero }) w := by
  obtain ⟨storage, receiveData, rawScratch, decoded, rfl⟩ := hb₀
  obtain ⟨limits, deadline, decoded, requestId, rfl⟩ := h
  obtain rfl : deadlineActive = false := Bool.of_not_eq_true fun h => absurd (hdeadline h) (by nofun)
  rcases htidy with rfl | rfl
  · exact .cleared hclosed ⟨true, limits, deadlineMs, decoded, rfl⟩
  · refine .cleared hclosed ⟨true, limits, deadlineMs, List.replicate storage.decodedCap 0#8, ?_⟩
    simp only [wipeRequestStorage, Broker.cleared, freshBroker, List.length_replicate]
    rfl

/-- The transport opens: the session is there. -/
theorem Broker.Prepared.inSession (h : b₀.Prepared b) (deadlineMs : BitVec 64)
    (hclosed : lifecycle false w.2 = some false)
    (hopen : ops.toBrokerOps.traced.openTransport w = (.ok, w')) :
    InSession b₀ { b with deadlineMs, deadlineActive := true, opened := true } w'.2 := by
  have hlog : w'.2 = w.2 ++ [.openTransport .ok] := by
    have hstatus : (ops.openTransport w.1).1 = .ok := congrArg Prod.fst hopen
    rw [← congrArg (·.2.2) hopen, ← hstatus]
    rfl
  constructor
  · rw [hlog, lifecycle_snoc hclosed]
    rfl
  · obtain ⟨storage, receiveData, rawScratch, decoded, rfl⟩ := hb₀
    obtain ⟨limits, deadline, decoded, requestId, rfl⟩ := h
    simp only [Broker.shell, Broker.cleared, freshBroker, List.length_replicate]
    rfl

omit hb₀ in
/-- The transport does not open. -/
theorem openTransport_refused {status : Status} (hne : status ≠ .ok)
    (hclosed : lifecycle false w.2 = some false)
    (hopen : ops.toBrokerOps.traced.openTransport w = (status, w')) :
    lifecycle false w'.2 = some false := by
  have hstatus : (ops.openTransport w.1).1 = status := congrArg Prod.fst hopen
  have hlog : w'.2 = w.2 ++ [.openTransport status] := by
    rw [← congrArg (·.2.2) hopen, ← hstatus]
    rfl
  rw [hlog, lifecycle_snoc hclosed]
  simp [TransportCall.follow, hne]

/-- An active broker is in a session. -/
theorem Settled.inSession (h : Settled b₀ w₀ b w) (ha : b.active = true) : InSession b₀ b w.2 := by
  obtain ⟨storage, receiveData, rawScratch, decoded, rfl⟩ := hb₀
  cases h with
  | untouched hb _ =>
    subst hb
    exact absurd ha (by simp [freshBroker])
  | cleared _ hb =>
    obtain ⟨initialized, limits, deadlineMs, decoded, rfl⟩ := hb
    exact absurd ha (by simp [Broker.cleared, freshBroker])
  | live hb _ => exact hb

omit hb₀ in
theorem remainingTimeout_traced (ops : BrokerOps σ) (b : Broker) (w : σ × List TransportCall) :
    (remainingTimeout ops.traced b w).2.2 = w.2 := by
  rw [remainingTimeout]
  split_ifs
  · rfl
  · split <;> rename_i heq <;> have hlog := congrArg (fun r => r.2.2.2) heq
    · split_ifs <;> exact hlog.symm
    · exact hlog.symm

omit hb₀ in
theorem beginDeadline_traced (timeoutMs : BitVec 32) (b : Broker) (w : σ × List TransportCall) :
    (beginDeadline ops.traced.toBrokerOps timeoutMs b w).2.2.2 = w.2 := by
  rw [beginDeadline]
  split <;> rename_i heq <;> exact (congrArg (fun r => r.2.2.2) heq).symm

omit hb₀ in
theorem queryEffectiveLimits_inSession (h : InSession b₀ b w.2) :
    InSession b₀ (queryEffectiveLimits ops.traced.toBrokerOps b w).2.1
      (queryEffectiveLimits ops.traced.toBrokerOps b w).2.2.2 := by
  rw [queryEffectiveLimits]
  split <;> rename_i heq <;> obtain rfl : _ = _ := congrArg (fun r => r.2.2) heq
  · split_ifs
    · exact h
    · exact ⟨h.isOpen, h.shell⟩
  · exact h

/-- **Every move keeps its phase.** -/
theorem Held.walk {p p' : SessionPhase} (h : Walk ops.traced p b w p' b' w') (hp : Held b₀ w₀ b w p) :
    Held b₀ w₀ b' w' p' := by
  induction h with
  | refl => exact hp
  | trans _ _ ih ih' => exact ih' (ih hp)
  | prepare w hi _ ho requestId =>
    have hready := Settled.ready hp hi ho
    exact ⟨hready.isClosed, hready.prepared hb₀ requestId⟩
  | number b w requestId =>
    obtain ⟨hclosed, limits, deadlineMs, decoded, _, rfl⟩ := hp
    exact ⟨hclosed, limits, deadlineMs, decoded, requestId, rfl⟩
  | random b w => exact hp
  | start b w => exact hp
  | refused b hne hopen => exact ⟨openTransport_refused ops hne hp.1 hopen, hp.2⟩
  | giveUp b w deadlineMs hdeadline htidy => exact hp.2.given_up hb₀ deadlineMs hdeadline htidy hp.1
  | connect b hopen deadlineMs => exact hp.2.inSession ops hb₀ deadlineMs hp.1 hopen
  | ask b w => exact queryEffectiveLimits_inSession ops hp
  | @governed b b' w w' hquery =>
    have hopen := queryEffectiveLimits_inSession ops hp
    rw [hquery] at hopen
    exact hopen
  | inner w hshell _ _ =>
    refine ⟨hp.isOpen, ?_⟩
    rw [hshell, show Broker.shell _ = _ from hp.shell]
  | clock b w => exact hp
  | send w _ timeoutMs => exact ⟨lifecycle_snoc hp.isOpen _, hp.shell⟩
  | receive b w cap timeoutMs => exact ⟨lifecycle_snoc hp.isOpen _, hp.shell⟩
  | cancel b w requestId => exact ⟨lifecycle_snoc hp.isOpen _, hp.shell⟩
  | resume w ha => exact Settled.inSession hb₀ hp ha
  | live w ha => exact .live hp ha
  | leave b w => exact hp
  | finish b w preserveDecoded decoded =>
    obtain ⟨hclosed, _, hcleared⟩ := finishSession_closes ops hb₀ hp preserveDecoded
    exact .cleared hclosed ⟨true, b.limits, 0#64, decoded, by
      rw [show (finishSession ops.traced.toBrokerOps preserveDecoded b w).2.1 = _ from hcleared]
      rfl⟩

/-- The sizes of the memory are those of `b₀`. -/
def Broker.Sized (b₀ b : Broker) : Prop :=
  b.storage.encoded.length = b₀.storage.encoded.length ∧
    b.storage.rawScratchCap = b₀.storage.rawScratchCap ∧
    b.storage.receiveCap = b₀.storage.receiveCap ∧ b.storage.decodedCap = b₀.storage.decodedCap

omit hb₀ in
theorem Broker.sized_cleared (b₀ : Broker) (initialized : Bool) (limits : FrameLimits)
    (deadlineMs : BitVec 64) (decoded : Octets) :
    b₀.Sized (b₀.cleared initialized limits deadlineMs decoded) :=
  ⟨List.length_replicate, rfl, rfl, rfl⟩

/-- What reset makes of a broker. -/
theorem zeroed_settled (h : b₀.Sized b) (hclosed : lifecycle false w.2 = some false) :
    Settled b₀ w₀ (wipeRequestStorage false b).zeroed w := by
  obtain ⟨storage, receiveData, rawScratch, decoded, rfl⟩ := hb₀
  obtain ⟨hencoded, hraw, hreceive, hdecoded⟩ := h
  refine .cleared hclosed ⟨false, ⟨0, 0, 0⟩, 0#64, List.replicate storage.decodedCap 0#8, ?_⟩
  simp only [Broker.zeroed, wipeRequestStorage, Broker.cleared, freshBroker, hencoded, hraw, hreceive,
    hdecoded]
  rfl

theorem brokerReset_settled (h : Settled b₀ w₀ b w) :
    Settled b₀ w₀ (brokerReset ops.traced b w).1 (brokerReset ops.traced b w).2 := by
  -- without a session, or after it was cancelled, the transport is closed
  have hidle : ∀ {b : Broker} {w : σ × List TransportCall}, Settled b₀ w₀ b w → b.active = false →
      b₀.Sized b ∧ b.opened = false ∧ lifecycle false w.2 = some false := by
    obtain ⟨storage, receiveData, rawScratch, decoded, rfl⟩ := hb₀
    intro b w h hinactive
    cases h with
    | untouched hb hw =>
      subst hb hw
      exact ⟨⟨rfl, rfl, rfl, rfl⟩, rfl, rfl⟩
    | cleared hclosed hb =>
      obtain ⟨initialized, limits, deadlineMs, decoded, rfl⟩ := hb
      exact ⟨Broker.sized_cleared _ _ _ _ _, rfl, hclosed⟩
    | live _ ha => cases ha.symm.trans hinactive
  rw [brokerReset]
  by_cases hinit : b.initialized = false
  · rw [if_pos hinit]
    exact h
  rw [if_neg hinit]
  by_cases hactive : b.active = true
  · have hcancelled : Settled b₀ w₀ _ _ := Held.walk ops hb₀ (brokerCancel_walk ops.traced b w) h
    have hinactive : (brokerCancel ops.traced b w).2.1.active = false := by
      rw [brokerCancel, if_neg (by simp_all)]
      rfl
    obtain ⟨hsized, -, hclosed⟩ := hidle hcancelled hinactive
    simp only [hactive, if_true]
    exact zeroed_settled hb₀ hsized hclosed
  · obtain ⟨hsized, hopened, hclosed⟩ := hidle h (Bool.of_not_eq_true hactive)
    simp only [hactive, hopened, if_false, Bool.false_eq_true]
    exact zeroed_settled hb₀ hsized hclosed

/-- **Any number of calls.** -/
theorem Settled.calls {fuel : ℕ} (h : Settled b₀ w₀ b w) {calls : List BrokerCall}
    (hr : brokerCalls ops.traced q fuel calls b w = some (b', w')) : Settled b₀ w₀ b' w' :=
  brokerCalls_keep ops.traced q (fun h hwalk => Held.walk ops hb₀ hwalk h)
    (brokerReset_settled ops hb₀) h hr

end Between

theorem brokerInitOver_fresh {storage : BrokerStorage} {receiveData rawScratch decoded : Octets}
    {b₀ : Broker} (h : brokerInitOver storage receiveData rawScratch decoded = .ok b₀) : b₀.Fresh := by
  rw [brokerInitOver] at h
  obtain ⟨b, hb, h⟩ := bind_eq_ok.mp h
  obtain ⟨-, hb⟩ := rejectIf_bind_eq_ok.mp hb
  obtain rfl := Except.ok.inj hb
  exact ⟨storage, receiveData, rawScratch, decoded, (Except.ok.inj h).symm⟩

def sampleOps : SessionOps Playback where
  toBrokerOps := sampleTransport
  random w := (.ok, sampleRequestId, w)
  cancel _ w := (.ok, w)

/-- A broker whose memory is filled with one octet. -/
def sampleBroker (octet : Octet) : Broker :=
  { freshBroker ⟨List.replicate 64 octet, 64, 64, 8⟩ with
    receiveData := List.replicate 64 octet, rawScratch := List.replicate 64 octet
    decoded := List.replicate 8 octet }

theorem sampleBroker_init (octet : Octet) :
    brokerInitOver ⟨List.replicate 64 octet, 64, 64, 8⟩ (List.replicate 64 octet)
      (List.replicate 64 octet) (List.replicate 8 octet) = .ok (sampleBroker octet) := rfl

/-- An upload that is begun and cancelled. -/
def sampleLife : Option (Broker × Playback × List TransportCall) :=
  brokerCalls sampleOps.traced sampleQcbor 10
    [.uploadBegin serviceRecoveryArtifact sampleRequestId [] 1000#32, .cancel] (sampleBroker 1#8)
    (⟨[], [], 0⟩, [])

end Pbns
