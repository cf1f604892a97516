/-
The button gate and the session of the provisioning mode (`pico/src/provision_gate.c`).

The gate takes samples of a button at times that may be any numbers.  `gateSamples` lists what it
answers to a sequence of samples.

* **`GateHistory.observe`** — what a sample does to the gate, with the samples accepted so far;
* **`gateSamples_held`** — the gate activates once at most, at the end of a long enough hold.
-/
import Pbns.FrameTypes
import Mathlib.Data.List.Induction
import Mathlib.Data.List.Pairwise
import Mathlib.Tactic.Common

namespace Pbns.Provision

/-! ### The gate -/

def sampleIntervalMs : ℕ := 50
def holdMs : ℕ := 2000

/-- `pbns_provision_gate_state` -/
inductive GateState
  | idle
  | pressPending
  | latched
  deriving DecidableEq

/-- `pbns_provision_gate` -/
structure ProvisionGate where
  state : GateState
  pressStartedMs : BitVec 64
  lastSampleMs : BitVec 64
  nextSampleMs : BitVec 64
  hasSample : Bool
  initialized : Bool
  deriving DecidableEq

/-- `pbns_provision_gate_init` -/
def gateInit : ProvisionGate := ⟨.idle, 0#64, 0#64, 0#64, false, true⟩

def nextSampleDeadline (nowMs : BitVec 64) : BitVec 64 :=
  if 2 ^ 64 - 1 - sampleIntervalMs < nowMs.toNat then BitVec.allOnes 64
  else nowMs + BitVec.ofNat 64 sampleIntervalMs

/-- `pbns_provision_gate_sample_due` -/
def gateSampleDue (gate : ProvisionGate) (nowMs : BitVec 64) : Bool :=
  if gate.initialized = false ∨ gate.state = .latched then false
  else if gate.hasSample = false ∨ nowMs < gate.lastSampleMs then true
  else decide (gate.lastSampleMs ≠ BitVec.allOnes 64 ∧ gate.nextSampleMs ≤ nowMs)

/-- The gate once a sample is taken: a clock that went back ends the press. -/
def gateTake (gate : ProvisionGate) (nowMs : BitVec 64) : ProvisionGate :=
  let back := gate.hasSample = true ∧ nowMs < gate.lastSampleMs
  { gate with
    state := if back then .idle else gate.state
    pressStartedMs := if back then 0#64 else gate.pressStartedMs
    hasSample := true
    lastSampleMs := nowMs
    nextSampleMs := nextSampleDeadline nowMs }

/-- `pbns_provision_gate_observe`: the status and whether the gate was activated. -/
def gateObserve (gate : ProvisionGate) (nowMs : BitVec 64) (pressed : Bool) :
    Status × Bool × ProvisionGate :=
  if gate.initialized = false then (.errArgument, false, gate)
  else if gate.state = .latched then (.ok, false, gate)
  else if gateSampleDue gate nowMs = false then (.errWouldBlock, false, gate)
  else
    let gate := gateTake gate nowMs
    if pressed = false then (.ok, false, { gate with state := .idle, pressStartedMs := 0#64 })
    else if gate.state = .idle then
      (.ok, false, { gate with state := .pressPending, pressStartedMs := nowMs })
    else if gate.state ≠ .pressPending then (.errState, false, gate)
    else if holdMs ≤ (nowMs - gate.pressStartedMs).toNat then
      (.ok, true, { gate with state := .latched })
    else (.ok, false, gate)

/-! ### The session -/

/-- `pbns_provision_session_state` -/
inductive SessionState
  | inactive
  | waitDisconnect
  | waitConnect
  | ready
  deriving DecidableEq

/-- `pbns_provision_session` -/
structure ProvisionSession where
  state : SessionState
  initialized : Bool
  deriving DecidableEq

/-- `pbns_provision_session_init` -/
def sessionInit : ProvisionSession := ⟨.inactive, true⟩

/-- `pbns_provision_session_activate` -/
def sessionActivate (session : ProvisionSession) (connected : Bool) : Status × ProvisionSession :=
  if session.initialized = false then (.errArgument, session)
  else (.ok, { session with state := if connected then .waitDisconnect else .waitConnect })

/-- `pbns_provision_session_observe`: the status and whether the session was opened. -/
def sessionObserve (session : ProvisionSession) (connected : Bool) :
    Status × Bool × ProvisionSession :=
  if session.initialized = false then (.errArgument, false, session)
  else
    match session.state with
    | .inactive => (.errState, false, session)
    | .waitDisconnect =>
      (.ok, false, if connected then session else { session with state := .waitConnect })
    | .waitConnect =>
      if connected then (.ok, true, { session with state := .ready }) else (.ok, false, session)
    | .ready =>
      (.ok, false, if connected then session else { session with state := .waitConnect })

/-- `pbns_provision_session_is_ready` -/
def sessionIsReady (session : ProvisionSession) : Bool :=
  session.initialized && decide (session.state = .ready)

/-! ### The samples of the gate -/

structure Sample where
  nowMs : BitVec 64
  pressed : Bool
  deriving DecidableEq

/-- A sample with the answer of the gate. -/
structure Answer where
  sample : Sample
  status : Status
  activated : Bool
  deriving DecidableEq

/-- The answers of a gate to a sequence of samples. -/
def gateSamples : ProvisionGate → List Sample → List Answer
  | _, [] => []
  | gate, sample :: samples =>
    match gateObserve gate sample.nowMs sample.pressed with
    | (status, activated, gate) => ⟨sample, status, activated⟩ :: gateSamples gate samples

/-- The gate after a sequence of samples. -/
def gateAfter : ProvisionGate → List Sample → ProvisionGate
  | gate, [] => gate
  | gate, sample :: samples =>
    gateAfter (gateObserve gate sample.nowMs sample.pressed).2.2 samples

theorem gateSamples_append (gate : ProvisionGate) (first second : List Sample) :
    gateSamples gate (first ++ second) =
      gateSamples gate first ++ gateSamples (gateAfter gate first) second := by
  induction first generalizing gate with
  | nil => rfl
  | cons sample first ih =>
    rw [List.cons_append, gateSamples, gateSamples, gateAfter]
    exact congrArg (List.cons _) (ih _)

theorem gateAfter_append (gate : ProvisionGate) (first second : List Sample) :
    gateAfter gate (first ++ second) = gateAfter (gateAfter gate first) second := by
  induction first generalizing gate with
  | nil => rfl
  | cons sample first ih => exact ih _

/-- The samples that the gate has accepted. -/
def accepted (answers : List Answer) : List Sample :=
  (answers.filter fun a => a.status = .ok).map Answer.sample

theorem accepted_append (first second : List Answer) :
    accepted (first ++ second) = accepted first ++ accepted second := by
  rw [accepted, List.filter_append, List.map_append]
  rfl

/-- The samples end in a hold: some last of them are pressed, in the order of their times, from
`startMs` on. -/
def Held (samples : List Sample) (startMs : BitVec 64) : Prop :=
  ∃ earlier first rest, samples = earlier ++ first :: rest ∧ first.nowMs = startMs ∧
    (∀ sample ∈ first :: rest, sample.pressed = true) ∧
    (first :: rest).Pairwise (fun a b => a.nowMs ≤ b.nowMs)

/-- What the answers so far say about the gate. -/
structure GateHistory (answers : List Answer) (gate : ProvisionGate) : Prop where
  initialized : gate.initialized = true
  last : gate.state ≠ .latched → ∀ sample ∈ (accepted answers).getLast?,
    sample.nowMs = gate.lastSampleMs
  fresh : gate.hasSample = false → gate.state = .idle
  pending : gate.state = .pressPending →
    gate.hasSample = true ∧ Held (accepted answers) gate.pressStartedMs
  once : (answers.filter Answer.activated).length = if gate.state = .latched then 1 else 0

theorem gateInit_history : GateHistory [] gateInit where
  initialized := rfl
  last _ := nofun
  fresh _ := rfl
  pending := nofun
  once := rfl

variable {samples : List Sample} {sample : Sample}

theorem getLast_hold (earlier rest : List Sample) (first : Sample) :
    (earlier ++ first :: rest).getLast? =
      some ((first :: rest).getLast (List.cons_ne_nil first rest)) := by
  rw [List.getLast?_append_of_ne_nil _ (List.cons_ne_nil first rest),
    List.getLast?_eq_some_getLast]

/-- A hold goes on with a pressed sample that is not earlier than the last one. -/
theorem Held.snoc {startMs : BitVec 64} (h : Held samples startMs)
    (hpressed : sample.pressed = true)
    (hlast : ∀ before ∈ samples.getLast?, before.nowMs ≤ sample.nowMs) :
    Held (samples ++ [sample]) startMs := by
  obtain ⟨earlier, first, rest, rfl, hstart, hheld, hsorted⟩ := h
  refine ⟨earlier, first, rest ++ [sample], by simp, hstart, ?_, ?_⟩
  · exact List.forall_mem_append.mpr ⟨hheld, List.forall_mem_singleton.mpr hpressed⟩
  · refine List.pairwise_append.mpr ⟨hsorted, List.pairwise_singleton _ _, fun s hs => ?_⟩
    -- the last sample of the hold is the last one accepted, and no earlier one is later than it
    have hlater := hsorted.rel_getLast_of_rel_getLast_getLast hs (BitVec.le_refl _)
    exact List.forall_mem_singleton.mpr (BitVec.le_trans hlater (hlast _ (getLast_hold ..)))

theorem held_single (hpressed : sample.pressed = true) :
    Held (samples ++ [sample]) sample.nowMs :=
  ⟨samples, sample, [], rfl, rfl, List.forall_mem_singleton.mpr hpressed,
    List.pairwise_singleton _ _⟩

theorem Held.start_le {startMs : BitVec 64} (h : Held (samples ++ [sample]) startMs) :
    startMs ≤ sample.nowMs := by
  obtain ⟨earlier, first, rest, hsamples, rfl, -, hsorted⟩ := h
  have hlast := congrArg List.getLast? hsamples
  rw [List.getLast?_concat, getLast_hold] at hlast
  rw [Option.some.inj hlast]
  exact hsorted.rel_getLast_of_rel_getLast_getLast List.mem_cons_self (BitVec.le_refl _)

/-- The hold that an activation ends. -/
def EndsHold (before : List Answer) (sample : Sample) : Prop :=
  ∃ startMs, Held (accepted before ++ [sample]) startMs ∧
    startMs.toNat + holdMs ≤ sample.nowMs.toNat

theorem accepted_snoc_ok (answers : List Answer) (sample : Sample) (activated : Bool) :
    accepted (answers ++ [⟨sample, .ok, activated⟩]) = accepted answers ++ [sample] := by
  rw [accepted_append]
  rfl

/-- The last sample accepted is the last one of the history. -/
theorem getLast_accepted_snoc {answers : List Answer} {before : Sample} {activated : Bool}
    (h : before ∈ (accepted (answers ++ [⟨sample, .ok, activated⟩])).getLast?) :
    before.nowMs = sample.nowMs := by
  rw [accepted_snoc_ok, List.getLast?_concat] at h
  exact congrArg Sample.nowMs (Option.some.inj h).symm

theorem filter_activated_snoc (answers : List Answer) (sample : Sample) (status : Status)
    (activated : Bool) :
    ((answers ++ [(⟨sample, status, activated⟩ : Answer)]).filter Answer.activated).length =
      (answers.filter Answer.activated).length + if activated then 1 else 0 := by
  rw [List.filter_append, List.length_append]
  cases activated <;> rfl

/-- A sample that is accepted and does not activate the gate. -/
theorem GateHistory.taken {answers : List Answer} {gate gate' : ProvisionGate}
    (h : GateHistory answers gate) (hopen : gate.state ≠ .latched) (hopen' : gate'.state ≠ .latched)
    (hinitialized : gate'.initialized = true) (hlast : gate'.lastSampleMs = sample.nowMs)
    (hsample : gate'.hasSample = true)
    (hpending : gate'.state = .pressPending →
      Held (accepted answers ++ [sample]) gate'.pressStartedMs) :
    GateHistory (answers ++ [⟨sample, .ok, false⟩]) gate' where
  initialized := hinitialized
  last _ before hbefore := (getLast_accepted_snoc hbefore).trans hlast.symm
  fresh hnone := absurd (hsample.symm.trans hnone) nofun
  pending hstate := ⟨hsample, accepted_snoc_ok answers sample false ▸ hpending hstate⟩
  once := by
    rw [filter_activated_snoc, h.once, if_neg hopen, if_neg hopen']
    rfl

/-- A sample keeps the history, and activates the gate only at the end of a hold. -/
theorem GateHistory.observe {answers : List Answer} {gate : ProvisionGate}
    (h : GateHistory answers gate) (sample : Sample) :
    let r := gateObserve gate sample.nowMs sample.pressed
    GateHistory (answers ++ [⟨sample, r.1, r.2.1⟩]) r.2.2 ∧
      (r.2.1 = true → r.1 = .ok ∧ gate.state ≠ .latched ∧ EndsHold answers sample) := by
  intro r
  have hstatus : ∀ status, (answers ++ [(⟨sample, status, false⟩ : Answer)]).filter Answer.activated =
      answers.filter Answer.activated := by
    simp
  unfold r gateObserve
  rw [if_neg (by simp [h.initialized])]
  by_cases hlatched : gate.state = .latched
  · -- a latched gate answers nothing but ok
    rw [if_pos hlatched]
    refine ⟨⟨h.initialized, (absurd hlatched ·), h.fresh, ?_, hstatus _ ▸ h.once⟩, nofun⟩
    simp [hlatched]
  · rw [if_neg hlatched]
    dsimp only
    split_ifs with hdue hpressed hidle hpending hlong
    · have hsame : accepted (answers ++ [⟨sample, .errWouldBlock, false⟩]) = accepted answers := by
        simp [accepted]
      exact ⟨⟨h.initialized, hsame ▸ h.last, h.fresh, hsame ▸ h.pending, hstatus _ ▸ h.once⟩, nofun⟩
    · -- released: the press is over
      exact ⟨h.taken hlatched nofun h.initialized rfl rfl nofun, nofun⟩
    · -- the first sample of a press
      exact ⟨h.taken hlatched nofun h.initialized rfl rfl
        fun _ => held_single (Bool.of_not_eq_false hpressed), nofun⟩
    all_goals
      -- the press was pending and the clock has not gone back
      have hback : ¬ (gate.hasSample = true ∧ sample.nowMs < gate.lastSampleMs) :=
        fun hback => hidle (if_pos hback)
      have hstate : (gateTake gate sample.nowMs).state = gate.state := if_neg hback
      have hstart : (gateTake gate sample.nowMs).pressStartedMs = gate.pressStartedMs :=
        if_neg hback
      rw [hstate] at hidle hpending
    · cases hgate : gate.state <;> contradiction
    all_goals
      rw [not_not] at hpending
      obtain ⟨hsample, hheld⟩ := h.pending hpending
      have hgrown : Held (accepted answers ++ [sample]) gate.pressStartedMs := by
        refine hheld.snoc (Bool.of_not_eq_false hpressed) fun before hbefore => ?_
        rw [h.last hlatched before hbefore]
        exact BitVec.not_lt.mp fun hlt => hback ⟨hsample, hlt⟩
    · rw [hstart, BitVec.toNat_sub_of_le hgrown.start_le] at hlong
      have hle := BitVec.le_def.mp hgrown.start_le
      refine ⟨⟨h.initialized, (absurd rfl ·), nofun, nofun, ?_⟩,
        fun _ => ⟨rfl, hlatched, gate.pressStartedMs, hgrown, by omega⟩⟩
      rw [filter_activated_snoc, h.once, if_neg hlatched]
      rfl
    · exact ⟨h.taken hlatched (hstate ▸ hlatched) h.initialized rfl rfl fun _ => hstart ▸ hgrown,
        nofun⟩

/-- The answers to any samples: the gate activates once at most, and each activation ends a run
of accepted samples, all pressed and in the order of their times, of two seconds or more. -/
structure HeldLongEnough (answers : List Answer) : Prop where
  once : (answers.filter Answer.activated).length ≤ 1
  held : ∀ before answer after, answers = before ++ answer :: after → answer.activated = true →
    answer.status = .ok ∧ EndsHold before answer.sample

theorem gateAfter_history (samples : List Sample) :
    GateHistory (gateSamples gateInit samples) (gateAfter gateInit samples) := by
  induction samples using List.reverseRecOn with
  | nil => exact gateInit_history
  | append_singleton samples sample ih =>
    rw [gateSamples_append, gateAfter_append]
    exact (ih.observe sample).1

/-- An answer among others, with the samples before it. -/
theorem gateSamples_split {gate : ProvisionGate} {before after : List Answer} {answer : Answer}
    (h : gateSamples gate samples = before ++ answer :: after) :
    ∃ first sample, before = gateSamples gate first ∧
      let r := gateObserve (gateAfter gate first) sample.nowMs sample.pressed
      answer = ⟨sample, r.1, r.2.1⟩ := by
  induction before generalizing gate samples with
  | nil =>
    cases samples with
    | nil => cases h
    | cons sample samples => exact ⟨[], sample, rfl, (List.cons.inj h).1.symm⟩
  | cons head before ih =>
    cases samples with
    | nil => cases h
    | cons sample samples =>
      obtain ⟨hhead, htail⟩ := List.cons.inj h
      obtain ⟨first, last, hbefore, hanswer⟩ := ih htail
      refine ⟨sample :: first, last, ?_, hanswer⟩
      rw [hbefore, ← hhead]
      rfl

theorem gateSamples_held (samples : List Sample) :
    HeldLongEnough (gateSamples gateInit samples) := by
  refine ⟨?_, ?_⟩
  · rw [(gateAfter_history samples).once]
    split <;> omega
  · intro before answer after hanswers hactivated
    obtain ⟨first, sample, hbefore, hanswer⟩ := gateSamples_split hanswers
    have hstep := ((gateAfter_history first).observe sample).2
    rw [hanswer] at hactivated ⊢
    obtain ⟨hok, -, hheld⟩ := hstep hactivated
    exact ⟨hok, hbefore ▸ hheld⟩

example : (gateSamples gateInit [⟨7#64, true⟩, ⟨9#64, false⟩, ⟨2007#64, true⟩]).map Answer.status =
    [.ok, .errWouldBlock, .ok] := by decide

example : (gateSamples gateInit [⟨7#64, true⟩, ⟨1000#64, true⟩, ⟨2007#64, true⟩,
    ⟨9000#64, true⟩]).map Answer.activated = [false, false, true, false] := by decide

end Pbns.Provision
