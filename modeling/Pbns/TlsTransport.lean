/-
The TLS transport (`src/transport/tls_transport.c`), with the verify callback and the profile check
of `src/transport/tls_policy.c`.

The TLS library is a parameter.  A call of it is a tree of the callbacks it makes: at a node it
calls back and goes on with the answer, at a leaf it returns.  Which tree it is may depend on the
library's contexts and on the whole outside world, so every order of callbacks and every result
is allowed; that the tree is well founded says that a call returns.  The lower transport, the
clock and the random source are operations on the state of the outside world, as for the broker.

`Machine` holds the transport, the outside world and the log of what the transport did there.
Pointers are never null.
-/
import Pbns.Broker
import Pbns.HandshakeObserver

namespace Pbns.Tls

open Octets

/-! ### The certificate policy -/

/-- `pbns_tls_certificate_policy`; the length of the name is the list's. -/
structure CertificatePolicy where
  expectedServerName : Octets
  pinnedLeafSpkiSha256 : Octets
  mbedtlsVerifyFlags : BitVec 32
  status : Status
  matched : Bool
  initialized : Bool
  deriving DecidableEq

/-- The policy after `pbns_tls_certificate_policy_init` with a name and a pin it accepts. -/
def certificatePolicyInit (expectedServerName pinnedLeafSpkiSha256 : Octets) : CertificatePolicy :=
  ⟨expectedServerName, pinnedLeafSpkiSha256, 0#32, .ok, false, true⟩

/-- `pbns_tls_certificate_policy_wipe` -/
def certificatePolicyWipe : CertificatePolicy := ⟨[], [], 0#32, .ok, false, false⟩

def badcertExpired : BitVec 32 := 0x01#32
def badcertNotTrusted : BitVec 32 := 0x08#32
def badcertFuture : BitVec 32 := 0x0200#32

def allowedMbedtlsFlags : BitVec 32 := badcertNotTrusted ||| badcertExpired ||| badcertFuture

def errEntropySourceFailed : Int := -0x0034
def errX509FatalError : Int := -0x3000
def errWantWrite : Int := -0x6880
def errWantRead : Int := -0x6900
def errInternalError : Int := -0x6C00

def tlsVersion12 : BitVec 16 := 0x0303#16
def ecdheEcdsaAes128GcmSha256 : BitVec 16 := 0xc02b#16

/-- `"pbns/1"` -/
def alpnProtocol : Octets := [0x70#8, 0x62#8, 0x6e#8, 0x73#8, 0x2f#8, 0x31#8]

/-- `pbns_tls_certificate_verify_callback`: the result, the flags and the policy it leaves. -/
def certificateVerifyCallback {γ : Type} (validateLeaf : CertificatePolicy → γ → Status)
    (certificate : γ) (depth : Int) (flags : BitVec 32) (policy : CertificatePolicy) :
    Int × BitVec 32 × CertificatePolicy :=
  if policy.initialized = false ∨ depth ≠ 0 then
    (errX509FatalError, flags, { policy with status := .errAuthentication })
  else if validateLeaf policy certificate ≠ .ok ∨ flags &&& ~~~allowedMbedtlsFlags ≠ 0#32 then
    (errX509FatalError, flags, { policy with status := .errAuthentication })
  else
    (0, flags &&& ~~~allowedMbedtlsFlags,
      { policy with status := .ok, mbedtlsVerifyFlags := flags, matched := true })

/-- `pbns_tls_validate_negotiated_profile` -/
def validateNegotiatedProfile (version cipher : BitVec 16) (alpn : Option Octets) : Status :=
  if version ≠ tlsVersion12 ∨ cipher ≠ ecdheEcdsaAes128GcmSha256 ∨ alpn ≠ some alpnProtocol then
    .errAuthentication
  else .ok

/-! ### The library, the outside world and the transport -/

/-- A call of the library that ends with an `α`. -/
inductive Callbacks (γ α : Type)
  | done (result : α)
  | send (bytes : Octets) (next : Int → Callbacks γ α)
  | receive (length : ℕ) (next : Int → Octets → Callbacks γ α)
  | random (length : ℕ) (next : Int → Octets → Callbacks γ α)
  | verify (certificate : γ) (depth : Int) (flags : BitVec 32)
      (next : Int → BitVec 32 → Callbacks γ α)

/-- The library over certificates `γ` and contexts `κ` (`ssl`, `configuration` and `drbg`);
`wiped` is the memory of the contexts filled with zeros, `configure` the calls that set the
authentication mode, the versions, the cipher suites and the callbacks. -/
structure Library (γ κ σ : Type) where
  wiped : κ
  init : κ
  drbgSeed : σ → κ → Callbacks γ (Int × κ)
  configDefaults : σ → κ → Int × κ
  configure : κ → κ
  confAlpnProtocols : σ → κ → Int × κ
  setup : σ → κ → Int × κ
  handshake : σ → κ → Callbacks γ (Int × κ)
  write : σ → κ → Octets → Callbacks γ (Int × κ)
  read : σ → κ → ℕ → Callbacks γ (Int × Octets × κ)
  closeNotify : σ → κ → Callbacks γ (Int × κ)
  verifyResult : κ → BitVec 32
  ciphersuite : κ → Int
  versionNumber : κ → BitVec 16
  alpn : κ → Option Octets
  validateLeaf : CertificatePolicy → γ → Status

/-- The lower transport with the clock, `cancel`, and the random source. -/
structure Outside (σ : Type) extends BrokerOps σ where
  cancel : RequestId → σ → Status × σ
  random : ℕ → σ → Status × Octets × σ

/-- `pbns_tls_state` -/
inductive TransportState
  | created
  | opening
  | ready
  deriving DecidableEq

/-- `pbns_tls_transport` without the operations it was created with. -/
structure Transport (κ : Type) where
  immutablePolicy : CertificatePolicy
  certificatePolicy : CertificatePolicy
  context : κ
  certificateObserver : HandshakeObserver
  deadlineMs : BitVec 64
  lastNowMs : BitVec 64
  bioProgressGeneration : BitVec 64
  handshakeTimeoutMs : BitVec 32
  failure : Status
  state : TransportState
  deadlineActive : Bool
  haveLastNow : Bool
  lowerOpen : Bool
  mbedtlsInitialized : Bool

/-- What the transport does to the world outside it.  `verified` is a certificate the policy let
pass with these flags, `write` and `read` are the library's plaintext calls, in the state they are
made in. -/
inductive Event
  | clock (status : Status) (nowMs : BitVec 64)
  | lowerOpen (status : Status)
  | lowerClose
  | lowerSend
  | lowerReceive
  | lowerCancel
  | lowerLimits
  | random
  | verified (flags : BitVec 32)
  | handshake (result : Int)
  | write (state : TransportState)
  | read (state : TransportState)
  | closeNotify (result : Int)
  deriving DecidableEq

structure Machine (κ σ : Type) where
  transport : Transport κ
  world : σ
  log : List Event

def Machine.note {κ σ : Type} (e : Event) (m : Machine κ σ) : Machine κ σ :=
  { m with log := m.log ++ [e] }

def tlsStagnationMax : ℕ := 16
def tlsStepMax : ℕ := 4096
def intMax : ℕ := 2 ^ 31 - 1

section Calls

variable {γ κ σ : Type} (lib : Library γ κ σ) (ops : Outside σ)

/-! ### The deadline -/

/-- `monotonic_ms` of the platform -/
def monotonicMs (m : Machine κ σ) : Status × BitVec 64 × Machine κ σ :=
  match ops.monotonicMs m.world with
  | (status, now, world) => (status, now, { m with world, log := m.log ++ [.clock status now] })

def endDeadline (t : Transport κ) : Transport κ :=
  { t with deadlineMs := 0#64, lastNowMs := 0#64, deadlineActive := false, haveLastNow := false }

/-- The deadline of a call that starts at `now`. -/
def deadlineAt (now : BitVec 64) (timeoutMs : BitVec 32) : BitVec 64 :=
  if 2 ^ 64 - 1 - now.toNat < timeoutMs.toNat then BitVec.allOnes 64
  else now + timeoutMs.setWidth 64

/-- `begin_deadline` -/
def beginDeadline (timeoutMs : BitVec 32) (m : Machine κ σ) : Status × Machine κ σ :=
  if m.transport.deadlineActive then (.ok, m)
  else if timeoutMs = 0#32 then (.errArgument, m)
  else
    match monotonicMs ops m with
    | (.ok, now, m) =>
      (.ok, { m with
        transport.deadlineMs := deadlineAt now timeoutMs
        transport.lastNowMs := now
        transport.haveLastNow := true
        transport.deadlineActive := true })
    | (status, _, m) => (status, m)

/-- `deadline_remaining` -/
def deadlineRemaining (m : Machine κ σ) : Except Status (BitVec 32) × Machine κ σ :=
  if m.transport.deadlineActive = false then (.error .errState, m)
  else
    match monotonicMs ops m with
    | (.ok, now, m) =>
      if m.transport.haveLastNow ∧ now < m.transport.lastNowMs then (.error .errState, m)
      else
        let m := { m with transport.lastNowMs := now, transport.haveLastNow := true }
        if m.transport.deadlineMs ≤ now then (.error .errTimeout, m)
        else
          let remaining := m.transport.deadlineMs - now
          let remainingMs :=
            if 2 ^ 32 - 1 < remaining.toNat then BitVec.allOnes 32 else remaining.setWidth 32
          (if remainingMs = 0#32 then .error .errTimeout else .ok remainingMs, m)
    | (status, _, m) => (.error status, m)

/-! ### The callbacks -/

/-- `random_callback` -/
def randomCallback (length : ℕ) (m : Machine κ σ) : (Int × Octets) × Machine κ σ :=
  if length = 0 then ((errEntropySourceFailed, []), m)
  else
    match ops.random length m.world with
    | (.ok, bytes, world) => ((0, bytes), { m with world, log := m.log ++ [.random] })
    | (_, bytes, world) =>
      ((errEntropySourceFailed, bytes),
        { m with world, log := m.log ++ [.random], transport.failure := .errEntropy })

/-- The end of `encrypted_send` and `encrypted_receive` after a failure. -/
def failCallback (failure : Status) (m : Machine κ σ) : Machine κ σ :=
  { m with transport.failure := failure }

def progress (m : Machine κ σ) : Machine κ σ :=
  { m with transport.bioProgressGeneration := m.transport.bioProgressGeneration + 1#64 }

/-- `encrypted_send` -/
def encryptedSend (bytes : Octets) (m : Machine κ σ) : Int × Machine κ σ :=
  if bytes.length = 0 ∨ intMax < bytes.length then (errInternalError, m)
  else
    match deadlineRemaining ops m with
    | (.error status, m) => (errInternalError, failCallback status m)
    | (.ok remainingMs, m) =>
      match ops.send bytes remainingMs m.world with
      | (status, world) =>
        let m := { m with world, log := m.log ++ [.lowerSend] }
        if status = .ok then (bytes.length, progress m)
        else if status = .errWouldBlock then (errWantWrite, m)
        else (errInternalError, failCallback status m)

/-- The octets of the lower transport, in `encrypted_receive`. -/
def acceptReceived (length : ℕ) (status : Status) (received : Octets) (m : Machine κ σ) :
    Int × Machine κ σ :=
  if status = .errWouldBlock ∧ received.length = 0 then (errWantRead, m)
  else if status ≠ .ok ∨ received.length = 0 ∨ length < received.length ∨
      intMax < received.length then
    (errInternalError, failCallback (if status = .ok then .errTransport else status) m)
  else
    match observe received m.transport.certificateObserver with
    | (observed, observer) =>
      let m := { m with transport.certificateObserver := observer }
      if observed ≠ .ok then (errInternalError, failCallback observed m)
      else (received.length, progress m)

/-- `encrypted_receive` -/
def encryptedReceive (length : ℕ) (m : Machine κ σ) : (Int × Octets) × Machine κ σ :=
  if length = 0 ∨ intMax < length then ((errInternalError, []), m)
  else
    match deadlineRemaining ops m with
    | (.error status, m) => ((errInternalError, []), failCallback status m)
    | (.ok remainingMs, m) =>
      match ops.receive length remainingMs m.world with
      | (status, received, world) =>
        match acceptReceived length status received
            { m with world, log := m.log ++ [.lowerReceive] } with
        | (result, m) => ((result, received), m)

/-- The verify callback on the transport's copy of the policy. -/
def verifyCallback (certificate : γ) (depth : Int) (flags : BitVec 32) (m : Machine κ σ) :
    (Int × BitVec 32) × Machine κ σ :=
  match certificateVerifyCallback lib.validateLeaf certificate depth flags
      m.transport.certificatePolicy with
  | (result, left, certificatePolicy) =>
    let m := { m with transport.certificatePolicy := certificatePolicy }
    ((result, left), if result = 0 then m.note (.verified flags) else m)

/-- A call of the library. -/
def runCallbacks {α : Type} : Callbacks γ α → Machine κ σ → α × Machine κ σ
  | .done result, m => (result, m)
  | .send bytes next, m =>
    match encryptedSend ops bytes m with
    | (result, m) => runCallbacks (next result) m
  | .receive length next, m =>
    match encryptedReceive ops length m with
    | ((result, bytes), m) => runCallbacks (next result bytes) m
  | .random length next, m =>
    match randomCallback ops length m with
    | ((result, bytes), m) => runCallbacks (next result bytes) m
  | .verify certificate depth flags next, m =>
    match verifyCallback lib certificate depth flags m with
    | ((result, left), m) => runCallbacks (next result left) m

/-- A call of the library that returns a number and leaves the contexts changed. -/
def sslCall (call : σ → κ → Callbacks γ (Int × κ)) (m : Machine κ σ) : Int × Machine κ σ :=
  match runCallbacks lib ops (call m.world m.transport.context) m with
  | ((result, context), m) => (result, { m with transport.context := context })

/-- `mbedtls_ssl_handshake` -/
def sslHandshake (m : Machine κ σ) : Int × Machine κ σ :=
  match sslCall lib ops lib.handshake m with
  | (result, m) => (result, m.note (.handshake result))

/-- `mbedtls_ssl_close_notify` -/
def sslCloseNotify (m : Machine κ σ) : Int × Machine κ σ :=
  match sslCall lib ops lib.closeNotify m with
  | (result, m) => (result, m.note (.closeNotify result))

/-- `mbedtls_ssl_write` -/
def sslWrite (bytes : Octets) (m : Machine κ σ) : Int × Machine κ σ :=
  sslCall lib ops (fun world context => lib.write world context bytes)
    (m.note (.write m.transport.state))

/-- `mbedtls_ssl_read` -/
def sslRead (cap : ℕ) (m : Machine κ σ) : (Int × Octets) × Machine κ σ :=
  let m := m.note (.read m.transport.state)
  match runCallbacks lib ops (lib.read m.world m.transport.context cap) m with
  | ((result, bytes, context), m) => ((result, bytes), { m with transport.context := context })

/-! ### The end of a session -/

/-- `release_mbedtls` -/
def releaseMbedtls (t : Transport κ) : Transport κ :=
  if t.mbedtlsInitialized = false then t
  else { t with context := lib.wiped, mbedtlsInitialized := false }

/-- What `reset_session` does to the transport after the lower close. -/
def clearSession (t : Transport κ) : Transport κ :=
  { endDeadline { releaseMbedtls lib t with
      certificatePolicy := certificatePolicyWipe, certificateObserver := observerInit } with
    state := .created, failure := .ok }

/-- `reset_session` -/
def resetSession (requestedStatus : Status) (m : Machine κ σ) : Status × Machine κ σ :=
  if m.transport.lowerOpen then
    match ops.closeTransport m.world with
    | (closeStatus, world) =>
      (if requestedStatus = .ok ∧ closeStatus ≠ .ok then closeStatus else requestedStatus,
        { transport := clearSession lib { m.transport with lowerOpen := false }
          world, log := m.log ++ [.lowerClose] })
  else (requestedStatus, { m with transport := clearSession lib m.transport })

/-- `fail_session` -/
def failSession (requestedStatus : Status) (m : Machine κ σ) : Status × Machine κ σ :=
  resetSession lib ops
    (if m.transport.failure = .ok then requestedStatus else m.transport.failure) m

/-! ### Opening -/

/-- `configure_mbedtls` once the generator is seeded. -/
def configureSession (m : Machine κ σ) : Status × Machine κ σ :=
  match lib.configDefaults m.world m.transport.context with
  | (defaults, context) =>
    let m := { m with transport.context := context }
    if defaults ≠ 0 then (.errResource, m)
    else
      let m := { m with transport.certificatePolicy := m.transport.immutablePolicy }
      match lib.confAlpnProtocols m.world (lib.configure m.transport.context) with
      | (alpn, context) =>
        let m := { m with transport.context := context }
        if alpn ≠ 0 then (.errResource, m)
        else
          match lib.setup m.world m.transport.context with
          | (setup, context) =>
            let m := { m with transport.context := context }
            if setup ≠ 0 then (.errResource, m)
            else (.ok, { m with transport.certificateObserver := observerInit })

/-- `configure_mbedtls` -/
def configureMbedtls (m : Machine κ σ) : Status × Machine κ σ :=
  let m := { m with transport.context := lib.init, transport.mbedtlsInitialized := true }
  match sslCall lib ops lib.drbgSeed m with
  | (seeded, m) => if seeded ≠ 0 then (.errEntropy, m) else configureSession lib m

/-- `validate_handshake` -/
def validateHandshake (t : Transport κ) : Status :=
  if t.certificatePolicy.matched = false ∨ t.certificatePolicy.status ≠ .ok ∨
      t.certificatePolicy.mbedtlsVerifyFlags ≠
        t.certificatePolicy.mbedtlsVerifyFlags &&& allowedMbedtlsFlags ∨
      lib.verifyResult t.context ≠ 0#32 then .errAuthentication
  else if lib.ciphersuite t.context < 0 ∨ 0xffff < lib.ciphersuite t.context then
    .errAuthentication
  else
    validateNegotiatedProfile (lib.versionNumber t.context)
      (BitVec.ofInt 16 (lib.ciphersuite t.context)) (lib.alpn t.context)

def isWant (result : Int) : Bool := result = errWantRead || result = errWantWrite

/-- `continue_after_want`: the count of steps without progress. -/
def continueAfterWant (beforeProgress beforeNowMs : BitVec 64) (stagnation : ℕ)
    (m : Machine κ σ) : Except Status ℕ × Machine κ σ :=
  match deadlineRemaining ops m with
  | (.error status, m) => (.error status, m)
  | (.ok _, m) =>
    if m.transport.bioProgressGeneration ≠ beforeProgress ∨ beforeNowMs < m.transport.lastNowMs then
      (.ok 0, m)
    else if stagnation = tlsStagnationMax then (.error .errTransport, m)
    else (.ok (stagnation + 1), m)

/-- The reason of a call of the library that failed: the failure of a callback, if there is one. -/
def failureOr (status : Status) (t : Transport κ) : Status :=
  if t.failure = .ok then status else t.failure

/-- What the loops of `transport_open`, `transport_send` and `transport_receive` do with a result
that is no success: the call fails with a reason, or it goes on with a count of steps without
progress.  `before` is the transport before the library was called. -/
def retryAfter (reason : Status) (before : Transport κ) (result : Int) (stagnation : ℕ)
    (m : Machine κ σ) : Except (Status × Machine κ σ) (ℕ × Machine κ σ) :=
  if isWant result = false then .error (failSession lib ops (failureOr reason m.transport) m)
  else
    match continueAfterWant ops before.bioProgressGeneration before.lastNowMs stagnation m with
    | (.error status, m) => .error (failSession lib ops status m)
    | (.ok stagnation, m) => .ok (stagnation, m)

/-- `transport_open` after the handshake has finished. -/
def finishHandshake (m : Machine κ σ) : Status × Machine κ σ :=
  match validateHandshake lib m.transport with
  | .ok =>
    match deadlineRemaining ops m with
    | (.ok _, m) => (.ok, { m with transport := endDeadline { m.transport with state := .ready } })
    | (.error status, m) => failSession lib ops status m
  | status => failSession lib ops status m

/-- The loop of `transport_open`, with the steps that are left. -/
def handshakeLoop : ℕ → ℕ → Machine κ σ → Status × Machine κ σ
  | 0, _, m => failSession lib ops .errTransport m
  | steps + 1, stagnation, m =>
    match sslHandshake lib ops m with
    | (result, m') =>
      if result = 0 then finishHandshake lib ops m'
      else
        match retryAfter lib ops .errAuthentication m.transport result stagnation m' with
        | .error failed => failed
        | .ok (stagnation, m') => handshakeLoop steps stagnation m'

/-- `transport_open` once the lower transport is open. -/
def openSession (m : Machine κ σ) : Status × Machine κ σ :=
  match configureMbedtls lib ops m with
  | (.ok, m) => handshakeLoop lib ops tlsStepMax 0 m
  | (status, m) => failSession lib ops status m

/-- `transport_open` -/
def transportOpen (m : Machine κ σ) : Status × Machine κ σ :=
  if m.transport.state ≠ .created then (.errState, m)
  else
    match beginDeadline ops m.transport.handshakeTimeoutMs m with
    | (.ok, m) =>
      match ops.openTransport m.world with
      | (.ok, world) =>
        openSession lib ops
          { transport := { m.transport with failure := .ok, lowerOpen := true, state := .opening }
            world, log := m.log ++ [.lowerOpen .ok] }
      | (status, world) =>
        match ops.closeTransport world with
        | (_, world) =>
          (status,
            { transport := endDeadline { m.transport with failure := .ok }
              world, log := m.log ++ [.lowerOpen status, .lowerClose] })
    | (status, m) => failSession lib ops status m

/-! ### Closing, sending and receiving -/

/-- The loop of `transport_close`. -/
def closeLoop : ℕ → ℕ → Machine κ σ → Status × Machine κ σ
  | 0, _, m => (.ok, m)
  | steps + 1, stagnation, m =>
    match sslCloseNotify lib ops m with
    | (result, m') =>
      if result = 0 then (.ok, m')
      else if isWant result = false then (failureOr .errTransport m'.transport, m')
      else
        match continueAfterWant ops m.transport.bioProgressGeneration m.transport.lastNowMs
            stagnation m' with
        | (.error status, m') => (status, m')
        | (.ok stagnation, m') =>
          -- the last step of the source leaves the transport error behind
          if steps = 0 then (.errTransport, m') else closeLoop steps stagnation m'

/-- `transport_close` -/
def transportClose (m : Machine κ σ) : Status × Machine κ σ :=
  if m.transport.state ≠ .ready then resetSession lib ops .ok m
  else
    match beginDeadline ops m.transport.handshakeTimeoutMs m with
    | (.ok, m) =>
      match closeLoop lib ops tlsStepMax 0 m with
      | (status, m) => resetSession lib ops status m
    | (status, m) => resetSession lib ops status m

/-- The end of `transport_send` and `transport_receive`: the call fails when the deadline has
passed. -/
def finishInTime (m : Machine κ σ) : Status × Machine κ σ :=
  match deadlineRemaining ops m with
  | (.ok _, m) => (.ok, { m with transport := endDeadline m.transport })
  | (.error status, m) => failSession lib ops status m

/-- The loop of `transport_send` and what follows it. -/
def sendLoop (bytes : Octets) : ℕ → ℕ → ℕ → Machine κ σ → Status × Machine κ σ
  | 0, offset, _, m =>
    if offset ≠ bytes.length then failSession lib ops .errTransport m else finishInTime lib ops m
  | steps + 1, offset, stagnation, m =>
    if bytes.length ≤ offset then
      if offset ≠ bytes.length then failSession lib ops .errTransport m
      else finishInTime lib ops m
    else
      match sslWrite lib ops (bytes.drop offset) m with
      | (result, m') =>
        if 0 < result then
          if bytes.length - offset < result.toNat then failSession lib ops .errTransport m'
          else sendLoop bytes steps (offset + result.toNat) 0 m'
        else
          match retryAfter lib ops .errTransport m.transport result stagnation m' with
          | .error failed => failed
          | .ok (stagnation, m') => sendLoop bytes steps offset stagnation m'

/-- The argument and state checks of `transport_send`. -/
def sendAdmitted (bytes : Octets) (t : Transport κ) : Prop :=
  bytes.length ≠ 0 ∧ bytes.length ≤ intMax ∧ t.state = .ready

instance (bytes : Octets) (t : Transport κ) : Decidable (sendAdmitted bytes t) :=
  inferInstanceAs (Decidable (_ ∧ _))

/-- `transport_send` -/
def transportSend (bytes : Octets) (timeoutMs : BitVec 32) (m : Machine κ σ) :
    Status × Machine κ σ :=
  if ¬ sendAdmitted bytes m.transport then (.errState, m)
  else
    match beginDeadline ops timeoutMs m with
    | (.ok, m) => sendLoop lib ops bytes tlsStepMax 0 0 m
    | (status, m) => failSession lib ops status m

/-- A failed receive reports no octet. -/
def nothingReceived (r : Status × Machine κ σ) : Status × (ℕ × Octets) × Machine κ σ :=
  (r.1, (0, []), r.2)

/-- The loop of `transport_receive`: what is received is the library's number, and the octets
the library left in the buffer. -/
def receiveLoop (cap : ℕ) : ℕ → ℕ → Machine κ σ → Status × (ℕ × Octets) × Machine κ σ
  | 0, _, m => nothingReceived (failSession lib ops .errTransport m)
  | steps + 1, stagnation, m =>
    match sslRead lib ops cap m with
    | ((result, bytes), m') =>
      if 0 < result then
        match finishInTime lib ops m' with
        | (.ok, m') => (.ok, (result.toNat, bytes), m')
        | (status, m') => nothingReceived (status, m')
      else
        match retryAfter lib ops .errTransport m.transport result stagnation m' with
        | .error failed => nothingReceived failed
        | .ok (stagnation, m') => receiveLoop cap steps stagnation m'

/-- The argument and state checks of `transport_receive`. -/
def receiveAdmitted (used cap : ℕ) (t : Transport κ) : Prop :=
  used = 0 ∧ cap ≠ 0 ∧ cap ≤ intMax ∧ t.state = .ready

instance (used cap : ℕ) (t : Transport κ) : Decidable (receiveAdmitted used cap t) :=
  inferInstanceAs (Decidable (_ ∧ _))

/-- `transport_receive` into a buffer with `used` octets in it and room for `cap`. -/
def transportReceive (used cap : ℕ) (timeoutMs : BitVec 32) (m : Machine κ σ) :
    Status × (ℕ × Octets) × Machine κ σ :=
  if ¬ receiveAdmitted used cap m.transport then (.errState, (0, []), m)
  else
    match beginDeadline ops timeoutMs m with
    | (.ok, m) => receiveLoop lib ops cap tlsStepMax 0 m
    | (status, m) => nothingReceived (failSession lib ops status m)

/-- `transport_cancel` -/
def transportCancel (requestId : RequestId) (m : Machine κ σ) : Status × Machine κ σ :=
  match ops.cancel requestId m.world with
  | (cancelStatus, world) =>
    match resetSession lib ops .ok { m with world, log := m.log ++ [.lowerCancel] } with
    | (closeStatus, m) => (if cancelStatus ≠ .ok then cancelStatus else closeStatus, m)

/-- `transport_limits` -/
def transportLimits (m : Machine κ σ) : Status × Option FrameLimits × Machine κ σ :=
  if m.transport.state ≠ .ready then (.errState, none, m)
  else
    match ops.limits m.world with
    | (status, limits, world) =>
      (status, some limits, { m with world, log := m.log ++ [.lowerLimits] })

/-! ### The life of a transport -/

/-- The transport after `pbns_tls_transport_create` with a configuration it accepts. -/
def tlsTransportCreate (expectedServerName pinnedLeafSpkiSha256 : Octets)
    (handshakeTimeoutMs : BitVec 32) : Transport κ where
  immutablePolicy := certificatePolicyInit expectedServerName pinnedLeafSpkiSha256
  certificatePolicy := certificatePolicyWipe
  context := lib.wiped
  certificateObserver := observerInit
  deadlineMs := 0#64
  lastNowMs := 0#64
  bioProgressGeneration := 0#64
  handshakeTimeoutMs := handshakeTimeoutMs
  failure := .ok
  state := .created
  deadlineActive := false
  haveLastNow := false
  lowerOpen := false
  mbedtlsInitialized := false

/-- `pbns_tls_transport_destroy`; the memory of the transport is wiped and given back. -/
def tlsTransportDestroy (m : Machine κ σ) : σ × List Event :=
  let m := (resetSession lib ops .ok m).2
  (m.world, m.log)

/-- A call of the transport's operations. -/
inductive TlsCall
  | openTransport
  | closeTransport
  | send (bytes : Octets) (timeoutMs : BitVec 32)
  | receive (used cap : ℕ) (timeoutMs : BitVec 32)
  | cancel (requestId : RequestId)
  | limits

def tlsCall : TlsCall → Machine κ σ → Status × Machine κ σ
  | .openTransport, m => transportOpen lib ops m
  | .closeTransport, m => transportClose lib ops m
  | .send bytes timeoutMs, m => transportSend lib ops bytes timeoutMs m
  | .receive used cap timeoutMs, m =>
    ((transportReceive lib ops used cap timeoutMs m).1,
      (transportReceive lib ops used cap timeoutMs m).2.2)
  | .cancel requestId, m => transportCancel lib ops requestId m
  | .limits, m => ((transportLimits ops m).1, (transportLimits ops m).2.2)

/-- The calls, one after the other. -/
def tlsCalls : List TlsCall → Machine κ σ → Machine κ σ
  | [], m => m
  | call :: calls, m => tlsCalls calls (tlsCall lib ops call m).2

end Calls

end Pbns.Tls
