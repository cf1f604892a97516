/-
A TLS transport that was used before opens like a new one.

A reset clears the transport up to its progress counter.  The counter is only ever compared with
an earlier value of itself, so a machine whose counter is ahead (`Machine.ahead`) does the same
and stays ahead: there is one `_ahead` lemma for each function between a callback and
`transport_open`.

* **`transportOpen_ahead`** — an open does not see how far the counter is;
* **`tls_lifecycle`** — the guarantees of the transport over every sequence of calls.
-/
import Pbns.TlsLifecycle

namespace Pbns.Tls

open Octets

section Ahead

variable {γ κ σ : Type} (lib : Library γ κ σ) (ops : Outside σ)

/-- The machine with the progress counter `d` steps further. -/
def Machine.ahead (d : BitVec 64) (m : Machine κ σ) : Machine κ σ :=
  { m with transport.bioProgressGeneration := m.transport.bioProgressGeneration + d }

/-- A result with a machine that is ahead. -/
def resultAhead {α : Type} (d : BitVec 64) (r : α × Machine κ σ) : α × Machine κ σ :=
  (r.1, r.2.ahead d)

variable (d : BitVec 64)

theorem monotonicMs_ahead (m : Machine κ σ) :
    monotonicMs ops (m.ahead d) =
      ((monotonicMs ops m).1, (monotonicMs ops m).2.1, (monotonicMs ops m).2.2.ahead d) :=
  rfl

theorem beginDeadline_ahead (timeoutMs : BitVec 32) (m : Machine κ σ) :
    beginDeadline ops timeoutMs (m.ahead d) = resultAhead d (beginDeadline ops timeoutMs m) := by
  unfold beginDeadline
  have hactive : (m.ahead d).transport.deadlineActive = m.transport.deadlineActive := rfl
  rw [hactive, monotonicMs_ahead]
  rcases monotonicMs ops m with ⟨status, now, m₁⟩
  split
  · rfl
  · split
    · rfl
    · cases status <;> rfl

theorem deadlineRemaining_ahead (m : Machine κ σ) :
    deadlineRemaining ops (m.ahead d) = resultAhead d (deadlineRemaining ops m) := by
  unfold deadlineRemaining
  have hactive : (m.ahead d).transport.deadlineActive = m.transport.deadlineActive := rfl
  rw [hactive, monotonicMs_ahead]
  rcases monotonicMs ops m with ⟨status, now, m₁⟩
  split
  · rfl
  · cases status with
    | ok =>
      dsimp only [Machine.ahead]
      by_cases hback : m₁.transport.haveLastNow ∧ now < m₁.transport.lastNowMs
      · rw [if_pos hback, if_pos hback]
        rfl
      · rw [if_neg hback, if_neg hback]
        by_cases hlate : m₁.transport.deadlineMs ≤ now
        · rw [if_pos hlate, if_pos hlate]
          rfl
        · rw [if_neg hlate, if_neg hlate]
          rfl
    | _ => rfl

theorem randomCallback_ahead (length : ℕ) (m : Machine κ σ) :
    randomCallback ops length (m.ahead d) = resultAhead d (randomCallback ops length m) := by
  unfold randomCallback
  split
  · rfl
  · have hworld : (m.ahead d).world = m.world := rfl
    rw [hworld]
    rcases ops.random length m.world with ⟨status, bytes, world⟩
    cases status <;> rfl

theorem progress_ahead (m : Machine κ σ) : progress (m.ahead d) = (progress m).ahead d := by
  unfold progress Machine.ahead
  dsimp only
  rw [BitVec.add_assoc, BitVec.add_comm d, ← BitVec.add_assoc]

theorem encryptedSend_ahead (bytes : Octets) (m : Machine κ σ) :
    encryptedSend ops bytes (m.ahead d) = resultAhead d (encryptedSend ops bytes m) := by
  unfold encryptedSend
  split
  · rfl
  · rw [deadlineRemaining_ahead]
    rcases deadlineRemaining ops m with ⟨answer, m₁⟩
    cases answer with
    | error status => rfl
    | ok remainingMs =>
      dsimp only [resultAhead, Machine.ahead]
      split_ifs
      · exact congrArg (Prod.mk _) (progress_ahead d
          { m₁ with
            world := (ops.send bytes remainingMs m₁.world).2, log := m₁.log ++ [.lowerSend] })
      · rfl
      · rfl

theorem acceptReceived_ahead (length : ℕ) (status : Status) (received : Octets)
    (m : Machine κ σ) :
    acceptReceived length status received (m.ahead d) =
      resultAhead d (acceptReceived length status received m) := by
  unfold acceptReceived
  split
  · rfl
  · split
    · rfl
    · have hobserver : (m.ahead d).transport.certificateObserver =
          m.transport.certificateObserver := rfl
      rw [hobserver]
      rcases observe received m.transport.certificateObserver with ⟨observed, observer⟩
      dsimp only
      split
      · rfl
      · exact congrArg (Prod.mk _)
          (progress_ahead d { m with transport.certificateObserver := observer })

theorem encryptedReceive_ahead (length : ℕ) (m : Machine κ σ) :
    encryptedReceive ops length (m.ahead d) = resultAhead d (encryptedReceive ops length m) := by
  unfold encryptedReceive
  split
  · rfl
  · rw [deadlineRemaining_ahead]
    rcases deadlineRemaining ops m with ⟨answer, m₁⟩
    cases answer with
    | error status => rfl
    | ok remainingMs =>
      have haccept := acceptReceived_ahead d length (ops.receive length remainingMs m₁.world).1
        (ops.receive length remainingMs m₁.world).2.1
        { m₁ with
          world := (ops.receive length remainingMs m₁.world).2.2
          log := m₁.log ++ [.lowerReceive] }
      exact congrArg (fun r : Int × Machine κ σ =>
        ((r.1, (ops.receive length remainingMs m₁.world).2.1), r.2)) haccept

theorem verifyCallback_ahead (certificate : γ) (depth : Int) (flags : BitVec 32)
    (m : Machine κ σ) :
    verifyCallback lib certificate depth flags (m.ahead d) =
      resultAhead d (verifyCallback lib certificate depth flags m) := by
  unfold verifyCallback
  have hpolicy : (m.ahead d).transport.certificatePolicy = m.transport.certificatePolicy := rfl
  rw [hpolicy]
  rcases certificateVerifyCallback lib.validateLeaf certificate depth flags
    m.transport.certificatePolicy with ⟨result, left, certificatePolicy⟩
  dsimp only [resultAhead]
  split <;> rfl

theorem runCallbacks_ahead {α : Type} (call : Callbacks γ α) (m : Machine κ σ) :
    runCallbacks lib ops call (m.ahead d) = resultAhead d (runCallbacks lib ops call m) := by
  induction call generalizing m with
  | done result => rfl
  | send bytes next ih =>
    rw [runCallbacks, runCallbacks, encryptedSend_ahead]
    exact ih _ _
  | receive length next ih =>
    rw [runCallbacks, runCallbacks, encryptedReceive_ahead]
    exact ih _ _ _
  | random length next ih =>
    rw [runCallbacks, runCallbacks, randomCallback_ahead]
    exact ih _ _ _
  | verify certificate depth flags next ih =>
    rw [runCallbacks, runCallbacks, verifyCallback_ahead]
    exact ih _ _ _

theorem sslCall_ahead (call : σ → κ → Callbacks γ (Int × κ)) (m : Machine κ σ) :
    sslCall lib ops call (m.ahead d) = resultAhead d (sslCall lib ops call m) := by
  have hrun := runCallbacks_ahead lib ops d (call m.world m.transport.context) m
  exact congrArg
    (fun r : (Int × κ) × Machine κ σ => (r.1.1, { r.2 with transport.context := r.1.2 })) hrun

theorem sslHandshake_ahead (m : Machine κ σ) :
    sslHandshake lib ops (m.ahead d) = resultAhead d (sslHandshake lib ops m) :=
  congrArg (fun r : Int × Machine κ σ => (r.1, r.2.note (.handshake r.1)))
    (sslCall_ahead lib ops d lib.handshake m)

theorem resetSession_ahead (status : Status) (m : Machine κ σ) :
    resetSession lib ops status (m.ahead d) = resultAhead d (resetSession lib ops status m) := by
  have hclear : ∀ t : Transport κ,
      clearSession lib { t with bioProgressGeneration := t.bioProgressGeneration + d } =
        { clearSession lib t with
          bioProgressGeneration := (clearSession lib t).bioProgressGeneration + d } := by
    intro t
    unfold clearSession releaseMbedtls endDeadline
    dsimp only
    split <;> rfl
  unfold resetSession
  have hlower : (m.ahead d).transport.lowerOpen = m.transport.lowerOpen := rfl
  rw [hlower]
  split
  · exact congrArg
      (fun t : Transport κ => (_, ({ transport := t, world := _, log := _ } : Machine κ σ)))
      (hclear { m.transport with lowerOpen := false })
  · exact congrArg
      (fun t : Transport κ => (_, ({ transport := t, world := _, log := _ } : Machine κ σ)))
      (hclear m.transport)

theorem failSession_ahead (status : Status) (m : Machine κ σ) :
    failSession lib ops status (m.ahead d) = resultAhead d (failSession lib ops status m) :=
  resetSession_ahead lib ops d _ m

theorem continueAfterWant_ahead (beforeProgress beforeNowMs : BitVec 64) (stagnation : ℕ)
    (m : Machine κ σ) :
    continueAfterWant ops (beforeProgress + d) beforeNowMs stagnation (m.ahead d) =
      resultAhead d (continueAfterWant ops beforeProgress beforeNowMs stagnation m) := by
  unfold continueAfterWant
  rw [deadlineRemaining_ahead]
  rcases deadlineRemaining ops m with ⟨answer, m₁⟩
  cases answer with
  | error status => rfl
  | ok remainingMs =>
    dsimp only [resultAhead]
    -- the counter moved exactly if it moved in the machine behind
    have hmoved : (m₁.ahead d).transport.bioProgressGeneration ≠ beforeProgress + d ↔
        m₁.transport.bioProgressGeneration ≠ beforeProgress :=
      not_congr (BitVec.add_left_inj d)
    have hnow : (m₁.ahead d).transport.lastNowMs = m₁.transport.lastNowMs := rfl
    rw [hnow]
    by_cases hgoes : m₁.transport.bioProgressGeneration ≠ beforeProgress ∨
        beforeNowMs < m₁.transport.lastNowMs
    · rw [if_pos hgoes, if_pos (hgoes.imp_left hmoved.mpr)]
    · rw [if_neg hgoes, if_neg fun h => hgoes (h.imp_left hmoved.mp)]
      split <;> rfl

theorem retryAfter_ahead (reason : Status) (before : Machine κ σ) (result : Int) (stagnation : ℕ)
    (m : Machine κ σ) :
    retryAfter lib ops reason (before.ahead d).transport result stagnation (m.ahead d) =
      match retryAfter lib ops reason before.transport result stagnation m with
      | .error failed => .error (resultAhead d failed)
      | .ok next => .ok (resultAhead d next) := by
  unfold retryAfter
  split
  · exact congrArg Except.error (failSession_ahead lib ops d _ m)
  · have hwant := continueAfterWant_ahead ops d before.transport.bioProgressGeneration
      before.transport.lastNowMs stagnation m
    have hbefore : continueAfterWant ops (before.ahead d).transport.bioProgressGeneration
        (before.ahead d).transport.lastNowMs stagnation (m.ahead d) =
        resultAhead d (continueAfterWant ops before.transport.bioProgressGeneration
          before.transport.lastNowMs stagnation m) := hwant
    rw [hbefore]
    rcases continueAfterWant ops before.transport.bioProgressGeneration
      before.transport.lastNowMs stagnation m with ⟨answer, m₁⟩
    cases answer with
    | error status => exact congrArg Except.error (failSession_ahead lib ops d status m₁)
    | ok stagnation' => rfl

theorem configureSession_ahead (m : Machine κ σ) :
    configureSession lib (m.ahead d) = resultAhead d (configureSession lib m) := by
  unfold configureSession
  dsimp only [Machine.ahead, resultAhead]
  by_cases hdefaults : (lib.configDefaults m.world m.transport.context).1 ≠ 0
  · rw [if_pos hdefaults, if_pos hdefaults]
  · rw [if_neg hdefaults, if_neg hdefaults]
    by_cases halpn : (lib.confAlpnProtocols m.world
        (lib.configure (lib.configDefaults m.world m.transport.context).2)).1 ≠ 0
    · rw [if_pos halpn, if_pos halpn]
    · rw [if_neg halpn, if_neg halpn]
      split <;> rfl

theorem configureMbedtls_ahead (m : Machine κ σ) :
    configureMbedtls lib ops (m.ahead d) = resultAhead d (configureMbedtls lib ops m) := by
  have hseed := sslCall_ahead lib ops d lib.drbgSeed
    { m with transport.context := lib.init, transport.mbedtlsInitialized := true }
  unfold configureMbedtls
  have hstart : ({ m.ahead d with
      transport.context := lib.init, transport.mbedtlsInitialized := true } : Machine κ σ) =
      ({ m with transport.context := lib.init, transport.mbedtlsInitialized := true } :
        Machine κ σ).ahead d := rfl
  dsimp only at hseed hstart ⊢
  rw [hstart, hseed]
  rcases sslCall lib ops lib.drbgSeed
    { m with transport.context := lib.init, transport.mbedtlsInitialized := true }
    with ⟨seeded, m₁⟩
  change (if seeded ≠ 0 then (Status.errEntropy, m₁.ahead d)
      else configureSession lib (m₁.ahead d)) =
    resultAhead d (if seeded ≠ 0 then (.errEntropy, m₁) else configureSession lib m₁)
  split
  · rfl
  · exact configureSession_ahead lib d m₁

theorem finishHandshake_ahead (m : Machine κ σ) :
    finishHandshake lib ops (m.ahead d) = resultAhead d (finishHandshake lib ops m) := by
  unfold finishHandshake
  have hvalid : validateHandshake lib (m.ahead d).transport = validateHandshake lib m.transport :=
    rfl
  rw [hvalid, deadlineRemaining_ahead]
  cases validateHandshake lib m.transport with
  | ok =>
    rcases deadlineRemaining ops m with ⟨answer, m₁⟩
    cases answer with
    | error status => exact failSession_ahead lib ops d status m₁
    | ok remainingMs => rfl
  | _ => exact failSession_ahead lib ops d _ m

theorem handshakeLoop_ahead (steps stagnation : ℕ) (m : Machine κ σ) :
    handshakeLoop lib ops steps stagnation (m.ahead d) =
      resultAhead d (handshakeLoop lib ops steps stagnation m) := by
  induction steps generalizing stagnation m with
  | zero => exact failSession_ahead lib ops d _ m
  | succ steps ih =>
    rw [handshakeLoop, handshakeLoop, sslHandshake_ahead]
    rcases sslHandshake lib ops m with ⟨result, m'⟩
    dsimp only [resultAhead]
    split
    · exact finishHandshake_ahead lib ops d m'
    · rw [retryAfter_ahead]
      rcases retryAfter lib ops .errAuthentication m.transport result stagnation m' with
        failed | ⟨stagnation', m''⟩
      · rfl
      · exact ih stagnation' m''

/-- An open does the same whatever the progress counter is. -/
theorem transportOpen_ahead (m : Machine κ σ) :
    transportOpen lib ops (m.ahead d) = resultAhead d (transportOpen lib ops m) := by
  have hsession : ∀ m : Machine κ σ,
      openSession lib ops (m.ahead d) = resultAhead d (openSession lib ops m) := by
    intro m
    unfold openSession
    rw [configureMbedtls_ahead]
    rcases configureMbedtls lib ops m with ⟨status, m₁⟩
    cases status with
    | ok => exact handshakeLoop_ahead lib ops d tlsStepMax 0 m₁
    | _ => exact failSession_ahead lib ops d _ m₁
  have hdeadline := beginDeadline_ahead ops d m.transport.handshakeTimeoutMs m
  unfold transportOpen
  have hstate : (m.ahead d).transport.state = m.transport.state := rfl
  have htimeout : (m.ahead d).transport.handshakeTimeoutMs = m.transport.handshakeTimeoutMs := rfl
  rw [hstate, htimeout, hdeadline]
  split
  · rfl
  · rcases beginDeadline ops m.transport.handshakeTimeoutMs m with ⟨status, m₁⟩
    cases status with
    | ok =>
      rcases hopen : ops.openTransport m₁.world with ⟨status, world⟩
      have hworld : (m₁.ahead d).world = m₁.world := rfl
      dsimp only [resultAhead]
      rw [hworld, hopen]
      cases status with
      | ok =>
        exact hsession
          { transport := { m₁.transport with failure := .ok, lowerOpen := true, state := .opening }
            world, log := m₁.log ++ [.lowerOpen .ok] }
      | _ => rfl
    | _ => exact failSession_ahead lib ops d _ m₁

end Ahead

/-! ### The life of a transport -/

section Life

variable {γ κ σ : Type} (lib : Library γ κ σ) (ops : Outside σ)

/-- The machine of a transport that was just created. -/
def created (name pin : Octets) (timeoutMs : BitVec 32) (world : σ) : Machine κ σ where
  transport := tlsTransportCreate lib name pin timeoutMs
  world := world
  log := []

theorem created_resting (name pin : Octets) (timeoutMs : BitVec 32) (world : σ) :
    Resting lib name pin timeoutMs (created lib name pin timeoutMs world).transport :=
  .inl ⟨0#64, rfl⟩

theorem renewed_ahead {name pin : Octets} {timeoutMs : BitVec 32} {generation : BitVec 64}
    {m : Machine κ σ} (h : m.transport = renewed lib name pin timeoutMs generation) :
    m = ({ m with transport := tlsTransportCreate lib name pin timeoutMs } : Machine κ σ).ahead
      generation := by
  obtain ⟨transport, world, log⟩ := m
  subst h
  have hzero : 0#64 + generation = generation := BitVec.zero_add generation
  exact congrArg
    (fun count => ({ transport := renewed lib name pin timeoutMs count, world, log } : Machine κ σ))
    hzero.symm

/-- After `pbns_tls_transport_destroy` the opens and closes of the log are paired. -/
theorem tlsTransportDestroy_log (name pin : Octets) (timeoutMs : BitVec 32) (world : σ)
    (calls : List TlsCall) :
    let m := tlsCalls lib ops calls (created lib name pin timeoutMs world)
    LowerLife.idle.follow (tlsTransportDestroy lib ops m).2 = some .idle ∧
      ∀ e ∈ (tlsTransportDestroy lib ops m).2, e.Plain := by
  intro m
  obtain ⟨hresting, hlogged⟩ :=
    tlsCalls_resting lib ops (created_resting lib name pin timeoutMs world) calls
  obtain ⟨⟨generation, hrenewed⟩, hreset⟩ := resetSession_renewed lib ops hresting .ok
  obtain ⟨events, hlog, hplain, hlife⟩ := hlogged.trans hreset
  have hall : (tlsTransportDestroy lib ops m).2 = events := hlog
  rw [hall]
  refine ⟨hlife.trans ?_, hplain⟩
  rw [hrenewed]
  rfl

/-- The TLS transport over every sequence of calls, with every behaviour of the lower transport,
the clock, the random source and the TLS library. -/
theorem tls_lifecycle (name pin : Octets) (timeoutMs : BitVec 32) (world : σ)
    (calls : List TlsCall) :
    let m := tlsCalls lib ops calls (created lib name pin timeoutMs world)
    -- plaintext is written and read in the ready state only
    (∀ state, Event.write state ∈ (tlsTransportDestroy lib ops m).2 ∨
        Event.read state ∈ (tlsTransportDestroy lib ops m).2 → state = .ready) ∧
      -- ready is entered by an open that passed every check
      (∀ call, m.transport.state ≠ .ready → (tlsCall lib ops call m).2.transport.state = .ready →
        call = .openTransport ∧ Entered lib m (tlsCall lib ops call m).2) ∧
      -- a lower open that succeeds is followed by one close before the next one and the end
      (∀ before after, (tlsTransportDestroy lib ops m).2 = before ++ .lowerOpen .ok :: after →
        closesAhead after = 1) ∧
      -- an admitted call that fails leaves the created transport, and it opens like a new one
      ∀ call : TlsCall, call.Admitted m.transport → (tlsCall lib ops call m).1 ≠ .ok →
        ∃ generation,
          (tlsCall lib ops call m).2.transport =
            { tlsTransportCreate lib name pin timeoutMs with bioProgressGeneration := generation } ∧
          transportOpen lib ops (tlsCall lib ops call m).2 =
            resultAhead generation (transportOpen lib ops
              { (tlsCall lib ops call m).2 with
                transport := tlsTransportCreate lib name pin timeoutMs }) := by
  intro m
  obtain ⟨hpaired, hplain⟩ := tlsTransportDestroy_log lib ops name pin timeoutMs world calls
  obtain ⟨hresting, -⟩ :=
    tlsCalls_resting lib ops (created_resting lib name pin timeoutMs world) calls
  refine ⟨?_, ?_, ?_, ?_⟩
  · intro state hmem
    rcases hmem with hwrite | hread
    · exact hplain _ hwrite
    · exact hplain _ hread
  · intro call
    exact (tlsCall_outcome lib ops hresting call).entered
  · intro before after hlog
    exact LowerLife.closed_once hpaired hlog
  · intro call hadmitted hfailed
    obtain ⟨generation, hrenewed⟩ :=
      (tlsCall_outcome lib ops hresting call).failed hadmitted hfailed
    refine ⟨generation, hrenewed, ?_⟩
    rw [← transportOpen_ahead, ← renewed_ahead lib hrenewed]

end Life

/-! ### A run -/

/-- A library that sends a flight, checks one self-signed certificate and finds no fault. -/
def politeLibrary : Library Unit Bool Unit where
  wiped := false
  init := true
  drbgSeed _ context := .random 32 fun result _ => .done (result, context)
  configDefaults _ context := (0, context)
  configure context := context
  confAlpnProtocols _ context := (0, context)
  setup _ context := (0, context)
  handshake _ context := .send [0x16#8] fun _ =>
    .verify () 0 badcertNotTrusted fun result _ => .done (result, context)
  write _ context bytes := .send bytes fun result => .done (result, context)
  read _ context _ := .receive 5 fun result bytes => .done (result, bytes, context)
  closeNotify _ context := .done (0, context)
  verifyResult _ := 0#32
  ciphersuite _ := 0xc02b
  versionNumber _ := tlsVersion12
  alpn _ := some alpnProtocol
  validateLeaf _ _ := .ok

/-- A lower transport that takes everything and has nothing to give. -/
def quietOutside : Outside Unit where
  monotonicMs _ := (.ok, 5#64, ())
  openTransport _ := (.ok, ())
  closeTransport _ := (.ok, ())
  send _ _ _ := (.ok, ())
  receive _ _ _ := (.errTransport, [], ())
  limits _ := (.ok, ⟨0, 0, 0⟩, ())
  cancel _ _ := (.ok, ())
  random _ _ := (.ok, [], ())

/-- The transport after an open and a send. -/
def sampleMachine : Machine Bool Unit :=
  tlsCalls politeLibrary quietOutside [.openTransport, .send [7#8] 9#32]
    (created politeLibrary [] [] 1000#32 ())

/-- The transport is ready, and the receive that then fails ends the session. -/
theorem tls_lifecycle_sample :
    sampleMachine.transport.state = .ready ∧
      (tlsCall politeLibrary quietOutside (.receive 0 4 9#32) sampleMachine).1 = .errTransport ∧
      ∃ generation,
        (tlsCall politeLibrary quietOutside (.receive 0 4 9#32) sampleMachine).2.transport =
          { tlsTransportCreate politeLibrary [] [] 1000#32 with
            bioProgressGeneration := generation } := by
  have hready : sampleMachine.transport.state = .ready := by decide +kernel
  have hfails : (tlsCall politeLibrary quietOutside (.receive 0 4 9#32) sampleMachine).1 =
      .errTransport := by decide +kernel
  have hadmitted : (TlsCall.receive 0 4 9#32).Admitted sampleMachine.transport :=
    And.intro rfl (And.intro (by decide) (And.intro (by decide) hready))
  have hlife := tls_lifecycle politeLibrary quietOutside [] [] 1000#32 ()
    [.openTransport, .send [7#8] 9#32]
  obtain ⟨generation, hrenewed, -⟩ :=
    hlife.2.2.2 (.receive 0 4 9#32) hadmitted (ne_of_eq_of_ne hfails (by decide))
  exact ⟨hready, hfails, generation, hrenewed⟩

end Pbns.Tls
