/-
The life of the TLS transport, over every sequence of calls and every result of the lower
transport, the clock, the random source and the TLS library.

What a library call does from inside its callbacks is bounded by `Steady`: the state of the
transport, its flags and its deadline stay, and the log grows by events that are `Calm`.  Every
loop of the transport keeps `Steady` until it ends, and it ends in one of three ways: the session
is given up (`Ended`), the handshake is accepted (`Finished`), or the call is done (`Served`).

* **`tlsCall_outcome`** — what one call does to a transport at rest (`Resting`);
* **`tlsCalls_resting`** — the transport is at rest between any two calls;
* **`tlsCall_ahead`** — the progress counter, which a reset keeps, is never seen: a transport
  whose counter is ahead does the same.
-/
import Pbns.TlsTransport
import Mathlib.Tactic.Common

namespace Pbns.Tls

open Octets

/-! ### The events of a session -/

/-- An event inside a session: it neither opens nor closes the lower transport, and plaintext
moves in the ready state only. -/
def Event.Calm : Event → Prop
  | .lowerOpen _ => False
  | .lowerClose => False
  | .write state => state = .ready
  | .read state => state = .ready
  | _ => True

def Event.isLowerOpen : Event → Bool
  | .lowerOpen _ => true
  | _ => false

/-- The lower transport as the log shows it; after an open that failed it is `refused` until the
close that follows. -/
inductive LowerLife
  | idle
  | opened
  | refused
  deriving DecidableEq

def LowerLife.step : LowerLife → Event → Option LowerLife
  | .idle, .lowerOpen .ok => some .opened
  | .idle, .lowerOpen _ => some .refused
  | .idle, .lowerClose => none
  | .opened, .lowerClose => some .idle
  | .refused, .lowerClose => some .idle
  | .opened, .lowerOpen _ => none
  | .refused, .lowerOpen _ => none
  | life, _ => some life

/-- The lower transport after the events, if no open or close is out of place. -/
def LowerLife.follow : LowerLife → List Event → Option LowerLife
  | life, [] => some life
  | life, e :: events => (life.step e).bind (follow · events)

theorem LowerLife.follow_append (life : LowerLife) (first second : List Event) :
    life.follow (first ++ second) = (life.follow first).bind (follow · second) := by
  induction first generalizing life with
  | nil => rfl
  | cons e first ih =>
    rw [List.cons_append, follow, follow, Option.bind_assoc]
    congr 1
    funext next
    exact ih next

theorem LowerLife.step_calm (life : LowerLife) {e : Event} (he : e.Calm) :
    life.step e = some life := by
  cases e <;> cases life <;> first | exact he.elim | rfl

theorem LowerLife.follow_calm (life : LowerLife) {events : List Event}
    (hcalm : ∀ e ∈ events, e.Calm) : life.follow events = some life := by
  induction events with
  | nil => rfl
  | cons e events ih =>
    rw [follow, step_calm life (hcalm e (List.mem_cons_self ..)), Option.bind_some]
    exact ih fun e' he' => hcalm e' (List.mem_cons_of_mem e he')

/-- The closes up to the next open. -/
def closesAhead (events : List Event) : ℕ :=
  (events.takeWhile fun e => e.isLowerOpen = false).count .lowerClose

theorem LowerLife.closesAhead_eq {life last : LowerLife} {events : List Event}
    (h : life.follow events = some last) (hlast : last = .idle) :
    closesAhead events = if life = .idle then 0 else 1 := by
  induction events generalizing life with
  | nil =>
    cases h
    rw [hlast]
    rfl
  | cons e events ih =>
    rw [follow] at h
    obtain ⟨next, hstep, hrest⟩ := Option.bind_eq_some_iff.mp h
    have hahead := ih hrest
    cases e <;> cases life <;>
      simp_all [step, closesAhead, Event.isLowerOpen] <;>
      (subst hstep; simp_all)

/-- In a log that ends idle each successful open is followed by one close before the next open. -/
theorem LowerLife.closed_once {log before after : List Event}
    (h : LowerLife.idle.follow log = some .idle) (hlog : log = before ++ .lowerOpen .ok :: after) :
    closesAhead after = 1 := by
  rw [hlog, follow_append] at h
  obtain ⟨life, _, hlife⟩ := Option.bind_eq_some_iff.mp h
  rw [follow] at hlife
  obtain ⟨next, hstep, hafter⟩ := Option.bind_eq_some_iff.mp hlife
  have hnext : next = .opened := by
    cases life with
    | idle => exact (Option.some.inj hstep).symm
    | opened => cases hstep
    | refused => cases hstep
  rw [closesAhead_eq hafter rfl, hnext]
  rfl

/-! ### What callbacks leave alone -/

section Steadiness

variable {γ κ σ : Type}

/-- The part of a transport that only its own operations change. -/
structure Core where
  immutablePolicy : CertificatePolicy
  handshakeTimeoutMs : BitVec 32
  state : TransportState
  lowerOpen : Bool
  mbedtlsInitialized : Bool
  deadlineActive : Bool
  deadlineMs : BitVec 64

def Transport.core (t : Transport κ) : Core where
  immutablePolicy := t.immutablePolicy
  handshakeTimeoutMs := t.handshakeTimeoutMs
  state := t.state
  lowerOpen := t.lowerOpen
  mbedtlsInitialized := t.mbedtlsInitialized
  deadlineActive := t.deadlineActive
  deadlineMs := t.deadlineMs

/-- If the policy has matched, it was before the events or one of them is the certificate. -/
def MatchedBy (before after : CertificatePolicy) (events : List Event) : Prop :=
  after.matched = true →
    before.matched = true ∧ before.mbedtlsVerifyFlags = after.mbedtlsVerifyFlags ∨
      .verified after.mbedtlsVerifyFlags ∈ events

theorem MatchedBy.refl (policy : CertificatePolicy) (events : List Event) :
    MatchedBy policy policy events :=
  fun hmatched => .inl ⟨hmatched, rfl⟩

theorem MatchedBy.trans {first second third : CertificatePolicy} {events events' : List Event}
    (h : MatchedBy first second events) (h' : MatchedBy second third events') :
    MatchedBy first third (events ++ events') := by
  intro hmatched
  rcases h' hmatched with ⟨hsecond, hflags⟩ | hmem
  · rcases h hsecond with ⟨hfirst, hflags'⟩ | hmem
    · exact .inl ⟨hfirst, hflags'.trans hflags⟩
    · rw [hflags] at hmem
      exact .inr (List.mem_append_left _ hmem)
  · exact .inr (List.mem_append_right _ hmem)

/-- The machine `m'` is `m` after calls that stay inside the session. -/
structure Steady (m m' : Machine κ σ) (events : List Event) : Prop where
  core : m'.transport.core = m.transport.core
  log : m'.log = m.log ++ events
  calm : ∀ e ∈ events, e.Calm
  matchedBy : MatchedBy m.transport.certificatePolicy m'.transport.certificatePolicy events

theorem Steady.refl (m : Machine κ σ) : Steady m m [] where
  core := rfl
  log := (List.append_nil _).symm
  calm := nofun
  matchedBy := MatchedBy.refl _ _

theorem Steady.trans {m₁ m₂ m₃ : Machine κ σ} {events events' : List Event}
    (h : Steady m₁ m₂ events) (h' : Steady m₂ m₃ events') : Steady m₁ m₃ (events ++ events') where
  core := h'.core.trans h.core
  log := by rw [h'.log, h.log, List.append_assoc]
  calm e he := (List.mem_append.mp he).elim (h.calm e) (h'.calm e)
  matchedBy := h.matchedBy.trans h'.matchedBy

variable {m m' : Machine κ σ}

/-- A step that logs one event and leaves the policy alone. -/
theorem Steady.event {e : Event} (he : e.Calm) (hcore : m'.transport.core = m.transport.core)
    (hlog : m'.log = m.log ++ [e])
    (hpolicy : m'.transport.certificatePolicy = m.transport.certificatePolicy) :
    Steady m m' [e] where
  core := hcore
  log := hlog
  calm _ he' := List.mem_singleton.mp he' ▸ he
  matchedBy := hpolicy ▸ MatchedBy.refl _ _

/-- A step that logs nothing and leaves the policy alone. -/
theorem Steady.silent (hcore : m'.transport.core = m.transport.core) (hlog : m'.log = m.log)
    (hpolicy : m'.transport.certificatePolicy = m.transport.certificatePolicy) :
    Steady m m' [] where
  core := hcore
  log := hlog.trans (List.append_nil _).symm
  calm := nofun
  matchedBy := hpolicy ▸ MatchedBy.refl _ _

/-- Some events happened, all inside the session. -/
def Within (m m' : Machine κ σ) : Prop := ∃ events, Steady m m' events

theorem Within.refl (m : Machine κ σ) : Within m m := ⟨[], Steady.refl m⟩

theorem Within.trans {m₁ m₂ m₃ : Machine κ σ} (h : Within m₁ m₂) (h' : Within m₂ m₃) :
    Within m₁ m₃ := by
  obtain ⟨events, hsteady⟩ := h
  obtain ⟨events', hsteady'⟩ := h'
  exact ⟨events ++ events', hsteady.trans hsteady'⟩

theorem Within.core (h : Within m m') :
    m'.transport.core = m.transport.core :=
  h.elim fun _ hsteady => hsteady.core

variable (lib : Library γ κ σ) (ops : Outside σ)

/-- `deadline_remaining` reads the clock once at most, and finds it below the deadline if there is
time left. -/
theorem deadlineRemaining_cases (m : Machine κ σ) :
    (∃ status m', deadlineRemaining ops m = (.error status, m') ∧ status ≠ .ok ∧ Within m m') ∨
      ∃ remainingMs now world, now < m.transport.deadlineMs ∧
        deadlineRemaining ops m =
          (.ok remainingMs,
            { transport := { m.transport with lastNowMs := now, haveLastNow := true }
              world, log := m.log ++ [.clock .ok now] }) := by
  unfold deadlineRemaining
  split
  · exact .inl ⟨_, _, rfl, nofun, Within.refl m⟩
  · rcases hclock : ops.monotonicMs m.world with ⟨status, now, world⟩
    have htick : Steady m { m with world, log := m.log ++ [.clock status now] }
        [.clock status now] := Steady.event trivial rfl rfl rfl
    have hread : monotonicMs ops m =
        (status, now, { m with world, log := m.log ++ [.clock status now] }) := by
      rw [monotonicMs, hclock]
    rw [hread]
    cases status with
    | ok =>
      dsimp only
      have hset : Steady m
          { transport := { m.transport with lastNowMs := now, haveLastNow := true }
            world, log := m.log ++ [.clock .ok now] } [.clock .ok now] :=
        Steady.event trivial rfl rfl rfl
      split
      · exact .inl ⟨_, _, rfl, nofun, _, htick⟩
      · split
        · exact .inl ⟨_, _, rfl, nofun, _, hset⟩
        · rename_i hdeadline
          generalize (if 2 ^ 32 - 1 < (m.transport.deadlineMs - now).toNat then BitVec.allOnes 32
            else (m.transport.deadlineMs - now).setWidth 32) = remainingMs
          split
          · exact .inl ⟨_, _, rfl, nofun, _, hset⟩
          · exact .inr ⟨_, now, world, BitVec.not_le.mp hdeadline, rfl⟩
    | _ => exact .inl ⟨_, _, rfl, nofun, _, htick⟩

theorem deadlineRemaining_within (m : Machine κ σ) : Within m (deadlineRemaining ops m).2 := by
  rcases deadlineRemaining_cases ops m with ⟨status, m', heq, -, hwithin⟩ | ⟨_, now, world, -, heq⟩
  · rw [heq]
    exact hwithin
  · rw [heq]
    exact ⟨[.clock .ok now], Steady.event trivial rfl rfl rfl⟩

theorem failCallback_within (failure : Status) (m : Machine κ σ) :
    Within m (failCallback failure m) :=
  ⟨[], Steady.silent rfl rfl rfl⟩

theorem progress_within (m : Machine κ σ) : Within m (progress m) :=
  ⟨[], Steady.silent rfl rfl rfl⟩

theorem randomCallback_within (length : ℕ) (m : Machine κ σ) :
    Within m (randomCallback ops length m).2 := by
  unfold randomCallback
  split
  · exact Within.refl m
  · split
    · exact ⟨[.random], Steady.event trivial rfl rfl rfl⟩
    · exact ⟨[.random], Steady.event trivial rfl rfl rfl⟩

theorem encryptedSend_within (bytes : Octets) (m : Machine κ σ) :
    Within m (encryptedSend ops bytes m).2 := by
  unfold encryptedSend
  split
  · exact Within.refl m
  · have hclock := deadlineRemaining_within ops m
    rcases hremaining : deadlineRemaining ops m with ⟨answer, m₁⟩
    rw [hremaining] at hclock
    cases answer with
    | error status => exact hclock.trans (failCallback_within status m₁)
    | ok remainingMs =>
      have hsent : Within m₁
          { m₁ with
            world := (ops.send bytes remainingMs m₁.world).2, log := m₁.log ++ [.lowerSend] } :=
        ⟨[.lowerSend], Steady.event trivial rfl rfl rfl⟩
      dsimp only
      split_ifs
      · exact (hclock.trans hsent).trans (progress_within _)
      · exact hclock.trans hsent
      · exact (hclock.trans hsent).trans (failCallback_within _ _)

theorem acceptReceived_within (length : ℕ) (status : Status) (received : Octets)
    (m : Machine κ σ) : Within m (acceptReceived length status received m).2 := by
  unfold acceptReceived
  split
  · exact Within.refl m
  · split
    · exact failCallback_within _ m
    · rcases observe received m.transport.certificateObserver with ⟨observed, observer⟩
      have hseen : Within m { m with transport.certificateObserver := observer } :=
        ⟨[], Steady.silent rfl rfl rfl⟩
      dsimp only
      split_ifs
      · exact hseen.trans (failCallback_within observed _)
      · exact hseen.trans (progress_within _)

theorem encryptedReceive_within (length : ℕ) (m : Machine κ σ) :
    Within m (encryptedReceive ops length m).2 := by
  unfold encryptedReceive
  split
  · exact Within.refl m
  · have hclock := deadlineRemaining_within ops m
    rcases hremaining : deadlineRemaining ops m with ⟨answer, m₁⟩
    rw [hremaining] at hclock
    cases answer with
    | error status => exact hclock.trans (failCallback_within status m₁)
    | ok remainingMs =>
      have hread : Within m₁
          { m₁ with
            world := (ops.receive length remainingMs m₁.world).2.2
            log := m₁.log ++ [.lowerReceive] } :=
        ⟨[.lowerReceive], Steady.event trivial rfl rfl rfl⟩
      exact (hclock.trans hread).trans (acceptReceived_within length _ _ _)

/-- The policy matches with the flags of the certificate it lets pass, and then the callback
reports success. -/
theorem certificateVerifyCallback_cases (validateLeaf : CertificatePolicy → γ → Status)
    (certificate : γ) (depth : Int) (flags : BitVec 32) (policy : CertificatePolicy) :
    (∃ left, certificateVerifyCallback validateLeaf certificate depth flags policy =
        (errX509FatalError, left, { policy with status := .errAuthentication })) ∨
      ∃ left, certificateVerifyCallback validateLeaf certificate depth flags policy =
        (0, left, { policy with status := .ok, mbedtlsVerifyFlags := flags, matched := true }) := by
  unfold certificateVerifyCallback
  split_ifs
  · exact .inl ⟨_, rfl⟩
  · exact .inl ⟨_, rfl⟩
  · exact .inr ⟨_, rfl⟩

theorem verifyCallback_within (certificate : γ) (depth : Int) (flags : BitVec 32)
    (m : Machine κ σ) : Within m (verifyCallback lib certificate depth flags m).2 := by
  unfold verifyCallback
  rcases certificateVerifyCallback_cases lib.validateLeaf certificate depth flags
    m.transport.certificatePolicy with ⟨left, hrefused⟩ | ⟨left, hmatched⟩
  · rw [hrefused]
    exact ⟨[], rfl, (List.append_nil _).symm, nofun, fun h => .inl ⟨h, rfl⟩⟩
  · rw [hmatched]
    refine ⟨[.verified flags], rfl, rfl, ?_, fun _ => .inr (List.mem_singleton.mpr rfl)⟩
    intro e he
    rw [List.mem_singleton.mp he]
    trivial

/-- Whatever callbacks a call of the library makes, and in whatever order. -/
theorem runCallbacks_within {α : Type} (call : Callbacks γ α) (m : Machine κ σ) :
    Within m (runCallbacks lib ops call m).2 := by
  induction call generalizing m with
  | done result => exact Within.refl m
  | send bytes next ih => exact (encryptedSend_within ops bytes m).trans (ih _ _)
  | receive length next ih => exact (encryptedReceive_within ops length m).trans (ih _ _ _)
  | random length next ih => exact (randomCallback_within ops length m).trans (ih _ _ _)
  | verify certificate depth flags next ih =>
    exact (verifyCallback_within lib certificate depth flags m).trans (ih _ _ _)

theorem sslCall_within (call : σ → κ → Callbacks γ (Int × κ)) (m : Machine κ σ) :
    Within m (sslCall lib ops call m).2 :=
  (runCallbacks_within lib ops (call m.world m.transport.context) m).trans
    ⟨[], Steady.silent rfl rfl rfl⟩

/-- The handshake's own event comes last. -/
theorem sslHandshake_steady (m : Machine κ σ) :
    ∃ events, Steady m (sslHandshake lib ops m).2
      (events ++ [.handshake (sslHandshake lib ops m).1]) := by
  obtain ⟨events, hcall⟩ := sslCall_within lib ops lib.handshake m
  exact ⟨events, hcall.trans (Steady.event trivial rfl rfl rfl)⟩

theorem sslCloseNotify_within (m : Machine κ σ) : Within m (sslCloseNotify lib ops m).2 :=
  (sslCall_within lib ops lib.closeNotify m).trans
    ⟨[.closeNotify _], Steady.event trivial rfl rfl rfl⟩

theorem sslWrite_within (bytes : Octets) (hready : m.transport.state = .ready) :
    Within m (sslWrite lib ops bytes m).2 := by
  have hnote : Within m (m.note (.write m.transport.state)) :=
    ⟨[_], Steady.event (e := .write _) hready rfl rfl rfl⟩
  exact hnote.trans (sslCall_within lib ops _ _)

theorem sslRead_within (cap : ℕ) (hready : m.transport.state = .ready) :
    Within m (sslRead lib ops cap m).2 := by
  have hnote : Within m (m.note (.read m.transport.state)) :=
    ⟨[_], Steady.event (e := .read _) hready rfl rfl rfl⟩
  have hrun := runCallbacks_within lib ops
    (lib.read m.world m.transport.context cap) (m.note (.read m.transport.state))
  exact (hnote.trans hrun).trans ⟨[], Steady.silent rfl rfl rfl⟩

theorem continueAfterWant_cases (beforeProgress beforeNowMs : BitVec 64) (stagnation : ℕ)
    (m : Machine κ σ) :
    ∃ answer m', continueAfterWant ops beforeProgress beforeNowMs stagnation m = (answer, m') ∧
      Within m m' ∧ ∀ status, answer = .error status → status ≠ .ok := by
  have hclock := deadlineRemaining_within ops m
  unfold continueAfterWant
  rcases deadlineRemaining_cases ops m with ⟨reason, m', heq, hreason, -⟩ | ⟨_, _, _, -, heq⟩
  · rw [heq] at hclock ⊢
    refine ⟨_, _, rfl, hclock, ?_⟩
    rintro status ⟨⟩
    exact hreason
  · rw [heq] at hclock ⊢
    dsimp only at hclock ⊢
    split_ifs
    · exact ⟨_, _, rfl, hclock, nofun⟩
    · refine ⟨_, _, rfl, hclock, ?_⟩
      rintro status ⟨⟩
      nofun
    · exact ⟨_, _, rfl, hclock, nofun⟩

end Steadiness

/-! ### The ends of a session -/

section Sessions

variable {γ κ σ : Type} (lib : Library γ κ σ) (ops : Outside σ)
variable (name pin : Octets) (timeoutMs : BitVec 32)

/-- A transport without a session: the created one, up to the progress counter. -/
def renewed (generation : BitVec 64) : Transport κ :=
  { tlsTransportCreate lib name pin timeoutMs with bioProgressGeneration := generation }

/-- A transport of this configuration with the lower transport open and the contexts in use. -/
structure InSession (t : Transport κ) : Prop where
  immutablePolicy : t.immutablePolicy = certificatePolicyInit name pin
  handshakeTimeoutMs : t.handshakeTimeoutMs = timeoutMs
  lowerOpen : t.lowerOpen = true
  mbedtlsInitialized : t.mbedtlsInitialized = true

/-- The session of `m` was given up: the call failed, the lower transport was closed once and the
transport is as it was created. -/
structure Ended (m : Machine κ σ) (r : Status × Machine κ σ) : Prop where
  status : r.1 ≠ .ok
  transport : ∃ generation, r.2.transport = renewed lib name pin timeoutMs generation
  log : ∃ events, (∀ e ∈ events, e.Calm) ∧ r.2.log = m.log ++ events ++ [.lowerClose]

/-- The handshake in the session of `m` was accepted before its deadline. -/
structure Finished (m : Machine κ σ) (r : Status × Machine κ σ) : Prop where
  status : r.1 = .ok
  core : r.2.transport.core =
    { m.transport.core with state := .ready, deadlineActive := false, deadlineMs := 0#64 }
  accepted : validateHandshake lib r.2.transport = .ok
  log : ∃ events now, (∀ e ∈ events, e.Calm) ∧ now < m.transport.deadlineMs ∧
    r.2.log = m.log ++ events ++ [.handshake 0, .clock .ok now] ∧
    MatchedBy m.transport.certificatePolicy r.2.transport.certificatePolicy events

/-- The call in the session of `m` is done and the session goes on. -/
structure Served (m : Machine κ σ) (r : Status × Machine κ σ) : Prop where
  status : r.1 = .ok
  core : r.2.transport.core =
    { m.transport.core with deadlineActive := false, deadlineMs := 0#64 }
  log : ∃ events, (∀ e ∈ events, e.Calm) ∧ r.2.log = m.log ++ events

variable {lib name pin timeoutMs}
variable {t : Transport κ} {m m' : Machine κ σ} {r : Status × Machine κ σ} {call : TlsCall}

theorem InSession.of_core {t' : Transport κ} {state : TransportState} {deadlineActive : Bool}
    {deadlineMs : BitVec 64} (h : InSession name pin timeoutMs t)
    (hcore : t'.core = { t.core with state, deadlineActive, deadlineMs }) :
    InSession name pin timeoutMs t' where
  immutablePolicy := (congrArg Core.immutablePolicy hcore).trans h.immutablePolicy
  handshakeTimeoutMs := (congrArg Core.handshakeTimeoutMs hcore).trans h.handshakeTimeoutMs
  lowerOpen := (congrArg Core.lowerOpen hcore).trans h.lowerOpen
  mbedtlsInitialized := (congrArg Core.mbedtlsInitialized hcore).trans h.mbedtlsInitialized

theorem Ended.of_within (hwithin : Within m m') (h : Ended lib name pin timeoutMs m' r) : Ended lib name pin timeoutMs m r where
  status := h.status
  transport := h.transport
  log := by
    obtain ⟨events, hsteady⟩ := hwithin
    obtain ⟨events', hcalm, hlog⟩ := h.log
    refine ⟨events ++ events', ?_, ?_⟩
    · exact fun e he => (List.mem_append.mp he).elim (hsteady.calm e) (hcalm e)
    · rw [hlog, hsteady.log, List.append_assoc m.log]

theorem Finished.of_within (hwithin : Within m m') (h : Finished lib m' r) : Finished lib m r where
  status := h.status
  core := by rw [h.core, hwithin.core]
  accepted := h.accepted
  log := by
    obtain ⟨events, hsteady⟩ := hwithin
    obtain ⟨events', now, hcalm, hnow, hlog, hmatched⟩ := h.log
    refine ⟨events ++ events', now, ?_, ?_, ?_, hsteady.matchedBy.trans hmatched⟩
    · exact fun e he => (List.mem_append.mp he).elim (hsteady.calm e) (hcalm e)
    · exact lt_of_lt_of_eq hnow (congrArg Core.deadlineMs hsteady.core)
    · rw [hlog, hsteady.log, List.append_assoc m.log]

theorem Served.of_within (hwithin : Within m m') (h : Served m' r) : Served m r where
  status := h.status
  core := by rw [h.core, hwithin.core]
  log := by
    obtain ⟨events, hsteady⟩ := hwithin
    obtain ⟨events', hcalm, hlog⟩ := h.log
    refine ⟨events ++ events', ?_, ?_⟩
    · exact fun e he => (List.mem_append.mp he).elim (hsteady.calm e) (hcalm e)
    · rw [hlog, hsteady.log, List.append_assoc]

/-- `clearSession` gives the created transport back. -/
theorem clearSession_eq (hpolicy : t.immutablePolicy = certificatePolicyInit name pin)
    (htimeout : t.handshakeTimeoutMs = timeoutMs)
    (hcontext : t.mbedtlsInitialized = false → t.context = lib.wiped) :
    clearSession lib { t with lowerOpen := false } =
      renewed lib name pin timeoutMs t.bioProgressGeneration := by
  unfold clearSession releaseMbedtls endDeadline renewed tlsTransportCreate
  subst htimeout
  cases hinit : t.mbedtlsInitialized with
  | false => simp [hpolicy, hcontext hinit]
  | true => simp [hpolicy]

variable (lib)

/-- `reset_session` in a session. -/
theorem resetSession_session (status : Status) (h : InSession name pin timeoutMs m.transport) :
    (resetSession lib ops status m).2.transport =
        renewed lib name pin timeoutMs m.transport.bioProgressGeneration ∧
      (resetSession lib ops status m).2.log = m.log ++ [.lowerClose] ∧
      (status ≠ .ok → (resetSession lib ops status m).1 = status) := by
  unfold resetSession
  rw [if_pos h.lowerOpen]
  refine ⟨?_, rfl, fun hstatus => if_neg fun hboth => hstatus hboth.1⟩
  refine clearSession_eq h.immutablePolicy h.handshakeTimeoutMs fun hinit => ?_
  rw [h.mbedtlsInitialized] at hinit
  cases hinit

theorem failSession_ended {status : Status} (hstatus : status ≠ .ok)
    (h : InSession name pin timeoutMs m.transport) :
    Ended lib name pin timeoutMs m (failSession lib ops status m) := by
  have hreason :
      (if m.transport.failure = .ok then status else m.transport.failure) ≠ .ok := by
    split
    · exact hstatus
    · assumption
  obtain ⟨htransport, hlog, hkept⟩ := resetSession_session lib ops
    (if m.transport.failure = .ok then status else m.transport.failure) h
  refine ⟨?_, ⟨_, htransport⟩, [], nofun, ?_⟩
  · exact ne_of_eq_of_ne (hkept hreason) hreason
  · exact hlog.trans (by rw [List.append_nil])

theorem failureOr_ne_ok {status : Status} (hstatus : status ≠ .ok) (t : Transport κ) :
    failureOr status t ≠ .ok := by
  unfold failureOr
  split
  · exact hstatus
  · assumption

/-- A call that goes on is still inside the session; one that does not has given it up. -/
theorem retryAfter_cases {reason : Status} (hreason : reason ≠ .ok) (before : Transport κ)
    (result : Int) (stagnation : ℕ) (h : InSession name pin timeoutMs m.transport)
    (hwithin : Within m m') :
    (∃ r, retryAfter lib ops reason before result stagnation m' = .error r ∧
        Ended lib name pin timeoutMs m r) ∨
      ∃ stagnation' m'', Within m m'' ∧
        retryAfter lib ops reason before result stagnation m' = .ok (stagnation', m'') := by
  unfold retryAfter
  split
  · have hfailed := failSession_ended lib ops (failureOr_ne_ok hreason m'.transport)
      (h.of_core hwithin.core)
    exact .inl ⟨_, rfl, hfailed.of_within hwithin⟩
  · obtain ⟨answer, m'', heq, hwant, herror⟩ := continueAfterWant_cases ops
      before.bioProgressGeneration before.lastNowMs stagnation m'
    rw [heq]
    have hboth := hwithin.trans hwant
    cases answer with
    | error status =>
      have hfailed := failSession_ended lib ops (herror status rfl) (h.of_core hboth.core)
      exact .inl ⟨_, rfl, hfailed.of_within hboth⟩
    | ok stagnation' => exact .inr ⟨stagnation', m'', hboth, rfl⟩

/-! ### The handshake -/

/-- The accepted transport: the certificate, the library's verdict and the profile are good and
there is time left. -/
theorem finishHandshake_cases (h : InSession name pin timeoutMs m.transport) :
    Ended lib name pin timeoutMs m (finishHandshake lib ops m) ∨
      validateHandshake lib m.transport = .ok ∧
        ∃ now world, now < m.transport.deadlineMs ∧
          finishHandshake lib ops m =
            (.ok, { transport :=
                      endDeadline { m.transport with
                        lastNowMs := now, haveLastNow := true, state := .ready }
                    world, log := m.log ++ [.clock .ok now] }) := by
  unfold finishHandshake
  cases hvalid : validateHandshake lib m.transport with
  | ok =>
    rcases deadlineRemaining_cases ops m with
      ⟨status, m', heq, hstatus, hwithin⟩ | ⟨remainingMs, now, world, hnow, heq⟩
    · rw [heq]
      exact .inl ((failSession_ended lib ops hstatus (h.of_core hwithin.core)).of_within hwithin)
    · rw [heq]
      exact .inr ⟨rfl, now, world, hnow, rfl⟩
  | _ =>
    dsimp only
    exact .inl (failSession_ended lib ops (by nofun) h)

theorem handshakeLoop_cases (steps stagnation : ℕ) (h : InSession name pin timeoutMs m.transport) :
    Ended lib name pin timeoutMs m (handshakeLoop lib ops steps stagnation m) ∨
      Finished lib m (handshakeLoop lib ops steps stagnation m) := by
  induction steps generalizing stagnation m with
  | zero => exact .inl (failSession_ended lib ops (by nofun) h)
  | succ steps ih =>
    obtain ⟨events, hsteady⟩ := sslHandshake_steady lib ops m
    rw [handshakeLoop]
    rcases hhandshake : sslHandshake lib ops m with ⟨result, m'⟩
    rw [hhandshake] at hsteady
    have hwithin : Within m m' := ⟨_, hsteady⟩
    have hsession := h.of_core hwithin.core
    dsimp only
    split
    · -- the handshake is over: its event and the last reading of the clock end the log
      rename_i hresult
      rcases finishHandshake_cases lib ops hsession with hended | ⟨hvalid, now, world, hnow, heq⟩
      · exact .inl (hended.of_within hwithin)
      · rw [heq]
        refine .inr ⟨rfl, ?_, hvalid, events, now, ?_, ?_, ?_, ?_⟩
        · have hcore := hsteady.core
          exact congrArg
            (fun core : Core =>
              { core with state := .ready, deadlineActive := false, deadlineMs := 0#64 }) hcore
        · exact fun e he => hsteady.calm e (List.mem_append_left _ he)
        · exact lt_of_lt_of_eq hnow (congrArg Core.deadlineMs hsteady.core)
        · have hlog : m'.log = m.log ++ (events ++ [.handshake result]) := hsteady.log
          rw [hlog, hresult]
          simp only [List.append_assoc, List.cons_append, List.nil_append]
        · intro hmatched
          rcases hsteady.matchedBy hmatched with hbefore | hmem
          · exact .inl hbefore
          · exact .inr ((List.mem_append.mp hmem).resolve_right (by simp))
    · rcases retryAfter_cases lib ops (by nofun : Status.errAuthentication ≠ .ok) m.transport result
        stagnation h hwithin with ⟨r, heq, hended⟩ | ⟨stagnation', m'', hboth, heq⟩
      · rw [heq]
        exact .inl hended
      · rw [heq]
        exact (ih stagnation' (h.of_core hboth.core)).imp (·.of_within hboth) (·.of_within hboth)

/-- Setting up a session moves nothing but the contexts, the policy's copy and the observer; the
copy has not matched. -/
theorem configureSession_within (hunmatched : m.transport.immutablePolicy.matched = false) :
    Within m (configureSession lib m).2 := by
  unfold configureSession
  dsimp only
  split
  · exact ⟨[], Steady.silent rfl rfl rfl⟩
  · have hcopied : ∀ m' : Machine κ σ, m'.transport.core = m.transport.core →
        m'.log = m.log → m'.transport.certificatePolicy = m.transport.immutablePolicy →
        Within m m' := by
      intro m' hcore hlog hpolicy
      refine ⟨[], hcore, hlog.trans (List.append_nil _).symm, nofun, fun hmatched => ?_⟩
      rw [hpolicy, hunmatched] at hmatched
      cases hmatched
    split
    · exact hcopied _ rfl rfl rfl
    · split
      · exact hcopied _ rfl rfl rfl
      · exact hcopied _ rfl rfl rfl

theorem configureMbedtls_within (hunmatched : m.transport.immutablePolicy.matched = false) :
    Within { m with transport.context := lib.init, transport.mbedtlsInitialized := true }
      (configureMbedtls lib ops m).2 := by
  have hseed := sslCall_within lib ops lib.drbgSeed
    { m with transport.context := lib.init, transport.mbedtlsInitialized := true }
  unfold configureMbedtls
  rcases hcall : sslCall lib ops lib.drbgSeed
    { m with transport.context := lib.init, transport.mbedtlsInitialized := true } with ⟨seeded, m₁⟩
  rw [hcall] at hseed
  have himmutable : m₁.transport.immutablePolicy.matched = false :=
    (congrArg (·.immutablePolicy.matched) hseed.core).trans hunmatched
  dsimp only at hcall ⊢
  rw [hcall]
  dsimp only
  split
  · exact hseed
  · exact hseed.trans (configureSession_within lib himmutable)

theorem openSession_cases (hpolicy : m.transport.immutablePolicy = certificatePolicyInit name pin)
    (htimeout : m.transport.handshakeTimeoutMs = timeoutMs) (hlower : m.transport.lowerOpen = true) :
    Ended lib name pin timeoutMs
        { m with transport.context := lib.init, transport.mbedtlsInitialized := true }
        (openSession lib ops m) ∨
      Finished lib { m with transport.context := lib.init, transport.mbedtlsInitialized := true }
        (openSession lib ops m) := by
  have hsession : InSession name pin timeoutMs
      { m.transport with context := lib.init, mbedtlsInitialized := true } :=
    ⟨hpolicy, htimeout, hlower, rfl⟩
  have hwithin := configureMbedtls_within lib ops (m := m) (by rw [hpolicy]; rfl)
  unfold openSession
  rcases hconfigure : configureMbedtls lib ops m with ⟨status, m₁⟩
  rw [hconfigure] at hwithin
  have hsession₁ := hsession.of_core hwithin.core
  cases status with
  | ok =>
    exact (handshakeLoop_cases lib ops tlsStepMax 0 hsession₁).imp (·.of_within hwithin)
      (·.of_within hwithin)
  | _ =>
    dsimp only
    exact .inl ((failSession_ended lib ops (by nofun) hsession₁).of_within hwithin)

/-! ### Sending, receiving and closing -/

theorem finishInTime_cases (h : InSession name pin timeoutMs m.transport) :
    Ended lib name pin timeoutMs m (finishInTime lib ops m) ∨ Served m (finishInTime lib ops m) := by
  unfold finishInTime
  rcases deadlineRemaining_cases ops m with
    ⟨status, m', heq, hstatus, hwithin⟩ | ⟨remainingMs, now, world, -, heq⟩
  · rw [heq]
    exact .inl ((failSession_ended lib ops hstatus (h.of_core hwithin.core)).of_within hwithin)
  · rw [heq]
    refine .inr ⟨rfl, rfl, [.clock .ok now], ?_, rfl⟩
    intro e he
    rw [List.mem_singleton.mp he]
    trivial

theorem sendLoop_cases (bytes : Octets) (steps offset stagnation : ℕ)
    (h : InSession name pin timeoutMs m.transport) (hready : m.transport.state = .ready) :
    Ended lib name pin timeoutMs m (sendLoop lib ops bytes steps offset stagnation m) ∨
      Served m (sendLoop lib ops bytes steps offset stagnation m) := by
  induction steps generalizing offset stagnation m with
  | zero =>
    rw [sendLoop]
    split
    · exact .inl (failSession_ended lib ops (by nofun) h)
    · exact finishInTime_cases lib ops h
  | succ steps ih =>
    rw [sendLoop]
    split
    · split
      · exact .inl (failSession_ended lib ops (by nofun) h)
      · exact finishInTime_cases lib ops h
    · have hwithin := sslWrite_within lib ops (bytes.drop offset) hready
      rcases hwrite : sslWrite lib ops (bytes.drop offset) m with ⟨result, m'⟩
      rw [hwrite] at hwithin
      -- a later step starts inside the same session and in the ready state
      have hnext : ∀ offset stagnation {m'' : Machine κ σ}, Within m m'' →
          Ended lib name pin timeoutMs m (sendLoop lib ops bytes steps offset stagnation m'') ∨
            Served m (sendLoop lib ops bytes steps offset stagnation m'') := by
        intro offset stagnation m'' hboth
        exact (ih offset stagnation (h.of_core hboth.core)
          ((congrArg Core.state hboth.core).trans hready)).imp
            (·.of_within hboth) (·.of_within hboth)
      dsimp only
      split
      · split
        · have hfailed := failSession_ended lib ops (by nofun : Status.errTransport ≠ .ok)
            (h.of_core hwithin.core)
          exact .inl (hfailed.of_within hwithin)
        · exact hnext _ _ hwithin
      · rcases retryAfter_cases lib ops (by nofun : Status.errTransport ≠ .ok) m.transport result
          stagnation h hwithin with ⟨r, heq, hended⟩ | ⟨stagnation', m'', hboth, heq⟩
        · rw [heq]
          exact .inl hended
        · rw [heq]
          exact hnext _ _ hboth

theorem receiveLoop_cases (cap steps stagnation : ℕ) (h : InSession name pin timeoutMs m.transport)
    (hready : m.transport.state = .ready) :
    Ended lib name pin timeoutMs m
        ((receiveLoop lib ops cap steps stagnation m).1,
          (receiveLoop lib ops cap steps stagnation m).2.2) ∨
      Served m
        ((receiveLoop lib ops cap steps stagnation m).1,
          (receiveLoop lib ops cap steps stagnation m).2.2) := by
  induction steps generalizing stagnation m with
  | zero => exact .inl (failSession_ended lib ops (by nofun : Status.errTransport ≠ .ok) h)
  | succ steps ih =>
    have hwithin := sslRead_within lib ops cap hready
    rw [receiveLoop]
    rcases hread : sslRead lib ops cap m with ⟨⟨result, bytes⟩, m'⟩
    rw [hread] at hwithin
    dsimp only
    split
    · have hfinish := (finishInTime_cases lib ops (h.of_core hwithin.core)).imp
        (·.of_within hwithin) (·.of_within hwithin)
      rcases hlast : finishInTime lib ops m' with ⟨status, m''⟩
      rw [hlast] at hfinish
      cases status <;> exact hfinish
    · rcases retryAfter_cases lib ops (by nofun : Status.errTransport ≠ .ok) m.transport result
        stagnation h hwithin with ⟨r, heq, hended⟩ | ⟨stagnation', m'', hboth, heq⟩
      · rw [heq]
        exact .inl hended
      · rw [heq]
        exact (ih stagnation' (h.of_core hboth.core)
          ((congrArg Core.state hboth.core).trans hready)).imp
            (·.of_within hboth) (·.of_within hboth)

theorem closeLoop_within (steps stagnation : ℕ) (m : Machine κ σ) :
    Within m (closeLoop lib ops steps stagnation m).2 := by
  induction steps generalizing stagnation m with
  | zero => exact Within.refl m
  | succ steps ih =>
    have hwithin := sslCloseNotify_within lib ops m
    rw [closeLoop]
    rcases hclose : sslCloseNotify lib ops m with ⟨result, m'⟩
    rw [hclose] at hwithin
    dsimp only
    split
    · exact hwithin
    · split
      · exact hwithin
      · obtain ⟨answer, m'', heq, hwant, -⟩ := continueAfterWant_cases ops
          m.transport.bioProgressGeneration m.transport.lastNowMs stagnation m'
        rw [heq]
        cases answer with
        | error status => exact hwithin.trans hwant
        | ok stagnation' =>
          dsimp only
          split
          · exact hwithin.trans hwant
          · exact (hwithin.trans hwant).trans (ih stagnation' m'')

/-! ### One call -/

/-- Plaintext moves in the ready state only. -/
def Event.Plain : Event → Prop
  | .write state => state = .ready
  | .read state => state = .ready
  | _ => True

theorem Event.Calm.plain {e : Event} (he : e.Calm) : e.Plain := by
  cases e <;> first | exact he | trivial

/-- The lower transport as the transport knows it. -/
def Transport.life (t : Transport κ) : LowerLife := if t.lowerOpen then .opened else .idle

/-- The log goes on from `m` to `m'` with opens and closes in their places. -/
def Logged (m m' : Machine κ σ) : Prop :=
  ∃ events, m'.log = m.log ++ events ∧ (∀ e ∈ events, e.Plain) ∧
    m.transport.life.follow events = some m'.transport.life

/-- An open in which the handshake finished, the policy matched a certificate with flags it
allows, the library found nothing wrong, the profile is the approved one and the deadline, counted
from the first reading of the clock, had not passed. -/
structure Entered (m m' : Machine κ σ) : Prop where
  handshake : ∃ start now events,
    m'.log = m.log ++ .clock .ok start :: .lowerOpen .ok :: events ++
      [.handshake 0, .clock .ok now] ∧
    .verified m'.transport.certificatePolicy.mbedtlsVerifyFlags ∈ events ∧
    now < deadlineAt start m.transport.handshakeTimeoutMs
  matched : m'.transport.certificatePolicy.matched = true
  status : m'.transport.certificatePolicy.status = .ok
  flags : m'.transport.certificatePolicy.mbedtlsVerifyFlags =
    m'.transport.certificatePolicy.mbedtlsVerifyFlags &&& allowedMbedtlsFlags
  verifyResult : lib.verifyResult m'.transport.context = 0#32
  cipher : 0 ≤ lib.ciphersuite m'.transport.context ∧ lib.ciphersuite m'.transport.context ≤ 0xffff
  profile : validateNegotiatedProfile (lib.versionNumber m'.transport.context)
    (BitVec.ofInt 16 (lib.ciphersuite m'.transport.context)) (lib.alpn m'.transport.context) = .ok

/-- The argument and state checks of an open, a send and a receive. -/
def TlsCall.Admitted (t : Transport κ) : TlsCall → Prop
  | .openTransport => t.state = .created
  | .send bytes _ => sendAdmitted bytes t
  | .receive used cap _ => receiveAdmitted used cap t
  | _ => False

/-- Between calls there is no session, or one that is ready and without a deadline. -/
def Resting (name pin : Octets) (timeoutMs : BitVec 32) (t : Transport κ) : Prop :=
  (∃ generation, t = renewed lib name pin timeoutMs generation) ∨
    InSession name pin timeoutMs t ∧ t.state = .ready ∧ t.deadlineActive = false

/-- What a call does to a transport at rest. -/
structure Outcome (name pin : Octets) (timeoutMs : BitVec 32) (call : TlsCall) (m : Machine κ σ)
    (r : Status × Machine κ σ) : Prop where
  resting : Resting lib name pin timeoutMs r.2.transport
  logged : Logged m r.2
  entered : m.transport.state ≠ .ready → r.2.transport.state = .ready →
    call = .openTransport ∧ Entered lib m r.2
  failed : call.Admitted m.transport → r.1 ≠ .ok →
    ∃ generation, r.2.transport = renewed lib name pin timeoutMs generation

theorem validateHandshake_ok (h : validateHandshake lib t = .ok) :
    (t.certificatePolicy.matched = true ∧ t.certificatePolicy.status = .ok ∧
        t.certificatePolicy.mbedtlsVerifyFlags =
          t.certificatePolicy.mbedtlsVerifyFlags &&& allowedMbedtlsFlags ∧
        lib.verifyResult t.context = 0#32) ∧
      (0 ≤ lib.ciphersuite t.context ∧ lib.ciphersuite t.context ≤ 0xffff) ∧
      validateNegotiatedProfile (lib.versionNumber t.context)
        (BitVec.ofInt 16 (lib.ciphersuite t.context)) (lib.alpn t.context) = .ok := by
  unfold validateHandshake at h
  split at h
  · cases h
  · rename_i hpolicy
    split at h
    · cases h
    · rename_i hcipher
      simp only [not_or, ne_eq, not_not] at hpolicy hcipher
      obtain ⟨hmatched, hstatus, hflags, hverify⟩ := hpolicy
      refine ⟨⟨?_, hstatus, hflags, hverify⟩, ⟨Int.not_lt.mp hcipher.1, Int.not_lt.mp hcipher.2⟩, h⟩
      exact Bool.of_not_eq_false hmatched

/-- The lower transport is closed after events inside the session. -/
theorem Logged.closed {events : List Event} (hcalm : ∀ e ∈ events, e.Calm)
    (hlog : m'.log = m.log ++ events ++ [.lowerClose]) (hlower : m.transport.lowerOpen = true)
    (hclosed : m'.transport.lowerOpen = false) : Logged m m' := by
  refine ⟨events ++ [.lowerClose], by rw [hlog, List.append_assoc], ?_, ?_⟩
  · intro e he
    rcases List.mem_append.mp he with hmem | hmem
    · exact (hcalm e hmem).plain
    · rw [List.mem_singleton.mp hmem]
      trivial
  · rw [Transport.life, Transport.life, hlower, hclosed, LowerLife.follow_append,
      LowerLife.follow_calm _ hcalm]
    rfl

variable {lib} in
theorem Ended.logged (h : Ended lib name pin timeoutMs m r) (hlower : m.transport.lowerOpen = true) :
    Logged m r.2 := by
  obtain ⟨events, hcalm, hlog⟩ := h.log
  obtain ⟨generation, htransport⟩ := h.transport
  exact .closed hcalm hlog hlower (congrArg Transport.lowerOpen htransport)

theorem Served.logged (h : Served m r) :
    Logged m r.2 := by
  obtain ⟨events, hcalm, hlog⟩ := h.log
  refine ⟨events, hlog, fun e he => (hcalm e he).plain, ?_⟩
  rw [LowerLife.follow_calm _ hcalm]
  exact congrArg (fun core : Core => some (if core.lowerOpen then LowerLife.opened else .idle))
    h.core.symm

theorem Logged.refl (m : Machine κ σ) : Logged m m := ⟨[], (List.append_nil _).symm, nofun, rfl⟩

theorem Logged.trans {m₁ m₂ m₃ : Machine κ σ} (h : Logged m₁ m₂) (h' : Logged m₂ m₃) :
    Logged m₁ m₃ := by
  obtain ⟨events, hlog, hplain, hlife⟩ := h
  obtain ⟨events', hlog', hplain', hlife'⟩ := h'
  refine ⟨events ++ events', by rw [hlog', hlog, List.append_assoc], ?_, ?_⟩
  · exact fun e he => (List.mem_append.mp he).elim (hplain e) (hplain' e)
  · rw [LowerLife.follow_append, hlife]
    exact hlife'

/-- An event that is no open and no close, with the lower transport as before. -/
theorem Logged.event {e : Event} (he : e.Calm) (hlog : m'.log = m.log ++ [e])
    (hlower : m'.transport.lowerOpen = m.transport.lowerOpen) : Logged m m' := by
  have hcalm : ∀ e' ∈ [e], e'.Calm := fun _ he' => List.mem_singleton.mp he' ▸ he
  refine ⟨[e], hlog, fun e' he' => (hcalm e' he').plain, ?_⟩
  rw [LowerLife.follow_calm _ hcalm, Transport.life, Transport.life, hlower]

/-- `begin_deadline` starts a deadline from the clock, or fails and changes nothing. -/
theorem beginDeadline_cases (timeout : BitVec 32) (hinactive : m.transport.deadlineActive = false) :
    (∃ status m', beginDeadline ops timeout m = (status, m') ∧ status ≠ .ok ∧
        m'.transport = m.transport ∧ Logged m m') ∨
      ∃ now world, beginDeadline ops timeout m =
        (.ok,
          { transport := { m.transport with
              deadlineMs := deadlineAt now timeout, lastNowMs := now
              haveLastNow := true, deadlineActive := true }
            world, log := m.log ++ [.clock .ok now] }) := by
  unfold beginDeadline
  rw [if_neg (by rw [hinactive]; nofun)]
  split
  · exact .inl ⟨_, _, rfl, nofun, rfl, Logged.refl m⟩
  · rcases hclock : ops.monotonicMs m.world with ⟨status, now, world⟩
    have hread : monotonicMs ops m =
        (status, now, { m with world, log := m.log ++ [.clock status now] }) := by
      rw [monotonicMs, hclock]
    rw [hread]
    cases status with
    | ok => exact .inr ⟨now, world, rfl⟩
    | _ => exact .inl ⟨_, _, rfl, nofun, rfl, Logged.event (e := .clock _ now) trivial rfl rfl⟩

variable {lib}

theorem Resting.inactive (h : Resting lib name pin timeoutMs t) :
    t.deadlineActive = false := by
  rcases h with ⟨generation, rfl⟩ | ⟨-, -, hinactive⟩
  · rfl
  · exact hinactive

variable (h : Resting lib name pin timeoutMs m.transport)

include h

/-- A call that is refused by its checks, or that only asks. -/
theorem Outcome.unchanged (htransport : r.2.transport = m.transport) (hlogged : Logged m r.2)
    (hrefused : ¬ call.Admitted m.transport) :
    Outcome lib name pin timeoutMs call m r where
  resting := htransport ▸ h
  logged := hlogged
  entered hnot hready := absurd (htransport ▸ hready) hnot
  failed hadmitted := absurd hadmitted hrefused

omit h in
theorem Outcome.of_renewed
    (h : ∃ generation, r.2.transport = renewed lib name pin timeoutMs generation)
    (hlogged : Logged m r.2) : Outcome lib name pin timeoutMs call m r where
  resting := .inl h
  logged := hlogged
  entered _ hready := by
    obtain ⟨generation, htransport⟩ := h
    rw [htransport] at hready
    cases hready
  failed _ _ := h

omit h in
theorem Outcome.of_served {m₁ : Machine κ σ} (h : Served m₁ r)
    (hsession : InSession name pin timeoutMs m₁.transport) (hready : m₁.transport.state = .ready)
    (hstart : m.transport.state = .ready) (hlogged : Logged m m₁) : Outcome lib name pin timeoutMs call m r where
  resting := .inr ⟨hsession.of_core h.core, (congrArg Core.state h.core).trans hready,
    congrArg Core.deadlineActive h.core⟩
  logged := hlogged.trans h.logged
  entered hnot := absurd hstart hnot
  failed _ hstatus := absurd h.status hstatus

variable (lib)

/-- `reset_session` at rest. -/
theorem resetSession_renewed (status : Status) :
    (∃ generation, (resetSession lib ops status m).2.transport =
        renewed lib name pin timeoutMs generation) ∧
      Logged m (resetSession lib ops status m).2 := by
  rcases h with ⟨generation, hrenewed⟩ | ⟨hsession, -, -⟩
  · have hreset : resetSession lib ops status m = (status, m) := by
      obtain ⟨transport, world, log⟩ := m
      subst hrenewed
      rfl
    rw [hreset]
    exact ⟨⟨generation, hrenewed⟩, Logged.refl m⟩
  · obtain ⟨htransport, hlog, -⟩ := resetSession_session lib ops status hsession
    have hcalm : ∀ e ∈ ([] : List Event), e.Calm := by nofun
    exact ⟨⟨_, htransport⟩, .closed hcalm (by rw [hlog, List.append_nil]) hsession.lowerOpen
      (congrArg Transport.lowerOpen htransport)⟩

theorem failSession_renewed (status : Status) :
    (∃ generation, (failSession lib ops status m).2.transport =
        renewed lib name pin timeoutMs generation) ∧
      Logged m (failSession lib ops status m).2 :=
  resetSession_renewed lib ops h _

omit h in
/-- A session that is accepted: the outcome of an open that succeeds. -/
theorem Outcome.of_finished {mo : Machine κ σ} {start : BitVec 64} (h : Finished lib mo r)
    (hsession : InSession name pin timeoutMs mo.transport)
    (hunmatched : mo.transport.certificatePolicy.matched = false)
    (hlower : m.transport.lowerOpen = false)
    (hdeadline : mo.transport.deadlineMs = deadlineAt start m.transport.handshakeTimeoutMs)
    (hlog : mo.log = m.log ++ [.clock .ok start, .lowerOpen .ok]) :
    Outcome lib name pin timeoutMs .openTransport m r := by
  obtain ⟨events, now, hcalm, hnow, hlog', hmatchedBy⟩ := h.log
  obtain ⟨⟨hmatched, hstatus, hflags, hverify⟩, hcipher, hprofile⟩ :=
    validateHandshake_ok lib h.accepted
  have hsession' := hsession.of_core h.core
  refine ⟨.inr ⟨hsession', congrArg Core.state h.core, congrArg Core.deadlineActive h.core⟩, ?_,
    fun _ _ => ⟨rfl, ?_⟩, ?_⟩
  · -- the lower transport is opened once, and the rest of the log is calm
    have hrest : ∀ e ∈ events ++ [.handshake 0, .clock .ok now], e.Calm := by
      intro e he
      rcases List.mem_append.mp he with hmem | hmem
      · exact hcalm e hmem
      · rcases List.mem_pair.mp hmem with rfl | rfl <;> trivial
    refine ⟨.clock .ok start :: .lowerOpen .ok :: (events ++ [.handshake 0, .clock .ok now]),
      ?_, ?_, ?_⟩
    · rw [hlog', hlog]
      simp only [List.append_assoc, List.cons_append, List.nil_append]
    · intro e he
      rcases List.mem_cons.mp he with rfl | hmem
      · trivial
      · rcases List.mem_cons.mp hmem with rfl | hmem
        · trivial
        · exact (hrest e hmem).plain
    · rw [Transport.life, Transport.life, hlower, hsession'.lowerOpen]
      exact LowerLife.follow_calm .opened hrest
  · refine ⟨⟨start, now, events, ?_, ?_, ?_⟩, hmatched, hstatus, hflags, hverify, hcipher, hprofile⟩
    · rw [hlog', hlog]
      simp only [List.append_assoc, List.cons_append, List.nil_append]
    · rcases hmatchedBy hmatched with ⟨hbefore, -⟩ | hmem
      · rw [hunmatched] at hbefore
        cases hbefore
      · exact hmem
    · exact lt_of_lt_of_eq hnow hdeadline
  · exact fun _ hfailed => absurd h.status hfailed

/-- `transport_open` on a transport at rest. -/
theorem transportOpen_outcome :
    Outcome lib name pin timeoutMs .openTransport m (transportOpen lib ops m) := by
  unfold transportOpen
  by_cases hcreated : m.transport.state = .created
  · rw [if_neg (not_not_intro hcreated)]
    obtain ⟨generation, hrenewed⟩ : ∃ generation,
        m.transport = renewed lib name pin timeoutMs generation := by
      rcases h with hrenewed | ⟨-, hready, -⟩
      · exact hrenewed
      · rw [hready] at hcreated
        cases hcreated
    rcases beginDeadline_cases ops m.transport.handshakeTimeoutMs h.inactive with
      ⟨status, m', heq, hstatus, htransport, hlogged⟩ | ⟨start, world, heq⟩
    · rw [heq]
      have hfail := failSession_renewed lib ops (m := m') (htransport ▸ h) status
      cases status with
      | ok => exact absurd rfl hstatus
      | _ => exact Outcome.of_renewed hfail.1 (hlogged.trans hfail.2)
    · rw [heq]
      dsimp only
      obtain ⟨transport, world₀, log⟩ := m
      obtain rfl : transport = renewed lib name pin timeoutMs generation := hrenewed
      rcases ops.openTransport world with ⟨status, world'⟩
      cases status with
      | ok =>
        let mo : Machine κ σ :=
          { transport := { renewed lib name pin timeoutMs generation with
              deadlineMs := deadlineAt start timeoutMs, lastNowMs := start
              haveLastNow := true, deadlineActive := true
              failure := .ok, lowerOpen := true, state := .opening }
            world := world', log := log ++ [.clock .ok start] ++ [.lowerOpen .ok] }
        have hpolicy : mo.transport.immutablePolicy = certificatePolicyInit name pin := rfl
        rcases openSession_cases lib ops hpolicy rfl rfl with hended | hfinished
        · refine Outcome.of_renewed hended.transport (Logged.trans ?_ (hended.logged rfl))
          exact ⟨_, List.append_assoc .., by simp [Event.Plain], rfl⟩
        · exact Outcome.of_finished lib hfinished ⟨rfl, rfl, rfl, rfl⟩ rfl rfl rfl
            (List.append_assoc ..)
      | _ =>
        -- the lower transport did not open, and is closed all the same
        dsimp only
        refine Outcome.of_renewed ⟨generation, rfl⟩ ⟨_, List.append_assoc .., ?_, rfl⟩
        simp [Event.Plain]
  · rw [if_pos hcreated]
    exact Outcome.unchanged h rfl (Logged.refl m) hcreated

/-- The deadline of a call in the ready state. -/
theorem beginDeadline_ready (timeout : BitVec 32) (hready : m.transport.state = .ready) :
    (∃ status m', beginDeadline ops timeout m = (status, m') ∧ status ≠ .ok ∧
        Resting lib name pin timeoutMs m'.transport ∧ Logged m m') ∨
      ∃ m₁, beginDeadline ops timeout m = (.ok, m₁) ∧ InSession name pin timeoutMs m₁.transport ∧
        m₁.transport.state = .ready ∧ Logged m m₁ := by
  obtain ⟨hsession, -, hinactive⟩ := h.resolve_left fun ⟨generation, hrenewed⟩ => by
    rw [hrenewed] at hready
    cases hready
  rcases beginDeadline_cases ops timeout hinactive with
    ⟨status, m', heq, hstatus, htransport, hlogged⟩ | ⟨start, world, heq⟩
  · exact .inl ⟨status, m', heq, hstatus, htransport ▸ h, hlogged⟩
  · exact .inr ⟨_, heq, hsession.of_core rfl, hready,
      Logged.event (e := .clock .ok start) trivial rfl rfl⟩

/-- A send or a receive in the ready state: a deadline, then the loop. -/
theorem Outcome.of_deadline (timeout : BitVec 32) (hready : m.transport.state = .ready)
    (hfail : ∀ status m', status ≠ .ok → beginDeadline ops timeout m = (status, m') → r = failSession lib ops status m')
    (hloop : ∀ m₁, beginDeadline ops timeout m = (.ok, m₁) → InSession name pin timeoutMs m₁.transport → m₁.transport.state = .ready → Ended lib name pin timeoutMs m₁ r ∨ Served m₁ r)
    :
    Outcome lib name pin timeoutMs call m r := by
  rcases beginDeadline_ready lib ops h timeout hready with
    ⟨status, m', heq, hstatus, hresting, hlogged⟩ | ⟨m₁, heq, hsession, hready₁, hticked⟩
  · rw [hfail status m' hstatus heq]
    have hfailed := failSession_renewed lib ops hresting status
    exact Outcome.of_renewed hfailed.1 (hlogged.trans hfailed.2)
  · rcases hloop m₁ heq hsession hready₁ with hended | hserved
    · exact Outcome.of_renewed hended.transport (hticked.trans (hended.logged hsession.lowerOpen))
    · exact Outcome.of_served hserved hsession hready₁ hready hticked

theorem transportSend_outcome (bytes : Octets) (timeout : BitVec 32) :
    Outcome lib name pin timeoutMs (.send bytes timeout) m
      (transportSend lib ops bytes timeout m) := by
  unfold transportSend
  by_cases hadmitted : sendAdmitted bytes m.transport
  · rw [if_neg (not_not_intro hadmitted)]
    refine Outcome.of_deadline lib ops h timeout hadmitted.2.2 ?_ ?_
    · intro status m' hstatus heq
      rw [heq]
      cases status <;> first | exact absurd rfl hstatus | rfl
    · intro m₁ heq hsession hready
      rw [heq]
      exact sendLoop_cases lib ops bytes tlsStepMax 0 0 hsession hready
  · rw [if_pos hadmitted]
    exact Outcome.unchanged h rfl (Logged.refl m) hadmitted

theorem transportReceive_outcome (used cap : ℕ) (timeout : BitVec 32) :
    Outcome lib name pin timeoutMs (.receive used cap timeout) m
      ((transportReceive lib ops used cap timeout m).1,
        (transportReceive lib ops used cap timeout m).2.2) := by
  unfold transportReceive
  by_cases hadmitted : receiveAdmitted used cap m.transport
  · rw [if_neg (not_not_intro hadmitted)]
    refine Outcome.of_deadline lib ops h timeout hadmitted.2.2.2 ?_ ?_
    · intro status m' hstatus heq
      rw [heq]
      cases status <;> first | exact absurd rfl hstatus | rfl
    · intro m₁ heq hsession hready
      rw [heq]
      exact receiveLoop_cases lib ops cap tlsStepMax 0 hsession hready
  · rw [if_pos hadmitted]
    exact Outcome.unchanged h rfl (Logged.refl m) hadmitted

theorem transportClose_outcome :
    Outcome lib name pin timeoutMs .closeTransport m (transportClose lib ops m) := by
  unfold transportClose
  split
  · have hreset := resetSession_renewed lib ops h .ok
    exact Outcome.of_renewed hreset.1 hreset.2
  · rename_i hready
    rw [not_not] at hready
    rcases beginDeadline_ready lib ops h m.transport.handshakeTimeoutMs hready with
      ⟨status, m', heq, hstatus, hresting, hlogged⟩ | ⟨m₁, heq, hsession, -, hticked⟩
    · rw [heq]
      have hreset := resetSession_renewed lib ops hresting status
      cases status with
      | ok => exact absurd rfl hstatus
      | _ => exact Outcome.of_renewed hreset.1 (hlogged.trans hreset.2)
    · rw [heq]
      obtain ⟨events, hsteady⟩ := closeLoop_within lib ops tlsStepMax 0 m₁
      obtain ⟨htransport, hlog, -⟩ := resetSession_session lib ops
        (closeLoop lib ops tlsStepMax 0 m₁).1 (hsession.of_core hsteady.core)
      -- the loop is calm, and the reset after it closes the lower transport
      rw [hsteady.log] at hlog
      exact Outcome.of_renewed ⟨_, htransport⟩ (hticked.trans (.closed hsteady.calm hlog
        hsession.lowerOpen (congrArg Transport.lowerOpen htransport)))

theorem transportCancel_outcome (requestId : RequestId) :
    Outcome lib name pin timeoutMs (.cancel requestId) m (transportCancel lib ops requestId m) := by
  let m₁ : Machine κ σ :=
    { m with world := (ops.cancel requestId m.world).2, log := m.log ++ [.lowerCancel] }
  have hcancelled : Logged m m₁ := Logged.event (e := .lowerCancel) trivial rfl rfl
  have hreset := resetSession_renewed lib ops (m := m₁) h .ok
  exact Outcome.of_renewed hreset.1 (hcancelled.trans hreset.2)

theorem transportLimits_outcome :
    Outcome lib name pin timeoutMs .limits m
      ((transportLimits ops m).1, (transportLimits ops m).2.2) := by
  unfold transportLimits
  split
  · exact Outcome.unchanged h rfl (Logged.refl m) not_false
  · exact Outcome.unchanged h rfl (Logged.event (e := .lowerLimits) trivial rfl rfl) not_false

/-- What a call does to a transport at rest, whatever the outside world and the library do. -/
theorem tlsCall_outcome (call : TlsCall) :
    Outcome lib name pin timeoutMs call m (tlsCall lib ops call m) := by
  cases call with
  | openTransport => exact transportOpen_outcome lib ops h
  | closeTransport => exact transportClose_outcome lib ops h
  | send bytes timeout => exact transportSend_outcome lib ops h bytes timeout
  | receive used cap timeout => exact transportReceive_outcome lib ops h used cap timeout
  | cancel requestId => exact transportCancel_outcome lib ops h requestId
  | limits => exact transportLimits_outcome lib ops h

theorem tlsCalls_resting (calls : List TlsCall) :
    Resting lib name pin timeoutMs (tlsCalls lib ops calls m).transport ∧
      Logged m (tlsCalls lib ops calls m) := by
  induction calls generalizing m with
  | nil => exact ⟨h, Logged.refl m⟩
  | cons call calls ih =>
    have hcall := tlsCall_outcome lib ops h call
    have hrest := ih hcall.resting
    exact ⟨hrest.1, hcall.logged.trans hrest.2⟩

end Sessions

end Pbns.Tls
