/-
The network controller of the Pico (`pico/src/network.c`), over any sequence of steps, clock
values, USB states and results of the operations.

The operations are run with the list of their calls (`NetworkOps.traced`), one list a step
(`NetworkTurn`).

* `networkStep_moves` — everything a step can do, as one relation (`Moves`);
* `Moves.sound`, `Moves.follows` — a connection is open exactly in the states that have one, and
  `wifi_start` and `close` take turns;
* `Moves.counted` — the number of failures behind the delays;
* `network_controller` — the same along every run.
-/
import Pbns.FrameTypes
import Mathlib.Logic.Basic

namespace Pbns

/-- `pbns_network_state`. -/
inductive NetworkState
  | down
  | wifiConnecting
  | tcpConnecting
  | sessionConnecting
  | ready
  | backoff
  deriving DecidableEq

/-- `pbns_network_ops`. -/
structure NetworkOps (σ : Type) where
  wifiStart : σ → Status × σ
  wifiPoll : σ → Status × σ
  tcpPoll : σ → Status × σ
  sessionPoll : σ → Status × σ
  close : σ → σ
  randomU32 : σ → Status × BitVec 32 × σ

/-- `pbns_network`. -/
structure Network where
  state : NetworkState
  failureCount : BitVec 32
  retryDeadlineMs : BitVec 64
  stateEnteredMs : BitVec 64
  failure : Status
  initialized : Bool
  connectionActive : Bool
  deriving DecidableEq

def networkWifiTimeoutMs : ℕ := 30000
def networkTcpTimeoutMs : ℕ := 10000
def networkSessionTimeoutMs : ℕ := 15000

def backoffInitialMs : ℕ := 250
def backoffMaxMs : ℕ := 8000
def backoffMaxShift : ℕ := 5

/-- `pbns_network_init`. -/
def networkInit : Network := ⟨.down, 0#32, 0#64, 0#64, .ok, true, false⟩

/-- `state_timeout`; zero is no timeout. -/
def stateTimeout : NetworkState → ℕ
  | .wifiConnecting => networkWifiTimeoutMs
  | .tcpConnecting => networkTcpTimeoutMs
  | .sessionConnecting => networkSessionTimeoutMs
  | _ => 0

/-- `nominal_backoff`. -/
def nominalBackoff (failureCount : ℕ) : ℕ := backoffInitialMs <<< min failureCount backoffMaxShift

/-- The delay `schedule_backoff` makes of the random value. -/
def jitteredBackoff (failureCount : ℕ) (randomValue : BitVec 32) : ℕ :=
  let nominal := nominalBackoff failureCount
  let jitter := randomValue.toNat % (nominal / 4 + 1)
  if backoffMaxMs - nominal < jitter then backoffMaxMs else nominal + jitter

/-- A point of time on the clock, which ends at `UINT64_MAX`. -/
def deadlineAfter (nowMs : BitVec 64) (delay : ℕ) : BitVec 64 :=
  if 2 ^ 64 - 1 - delay < nowMs.toNat then BitVec.allOnes 64 else nowMs + BitVec.ofNat 64 delay

section Step

variable {σ : Type} (ops : NetworkOps σ)

/-- `close_active_connection`. -/
def closeActiveConnection (n : Network) (w : σ) : Network × σ :=
  if n.connectionActive then ({ n with connectionActive := false }, ops.close w) else (n, w)

/-- `schedule_backoff`; the first value is the status, the second whether progress was made. -/
def scheduleBackoff (nowMs : BitVec 64) (cause : Status) (n : Network) (w : σ) :
    Status × Bool × Network × σ :=
  let (n, w) := closeActiveConnection ops n w
  match ops.randomU32 w with
  | (.ok, randomValue, w) =>
    (cause, true, { n with
      retryDeadlineMs := deadlineAfter nowMs (jitteredBackoff n.failureCount.toNat randomValue)
      failureCount := if n.failureCount = BitVec.allOnes 32 then n.failureCount else n.failureCount + 1#32
      state := .backoff, stateEnteredMs := nowMs }, w)
  | (randomStatus, _, w) =>
    (randomStatus, true, { n with
      state := .down, retryDeadlineMs := 0#64, stateEnteredMs := nowMs, failure := randomStatus }, w)

/-- `poll_connecting_stage`. -/
def pollConnectingStage (poll : σ → Status × σ) (nextState : NetworkState) (nowMs : BitVec 64)
    (n : Network) (w : σ) : Status × Bool × Network × σ :=
  match poll w with
  | (.errWouldBlock, w) => (.ok, false, n, w)
  | (.ok, w) =>
    let n := { n with state := nextState, stateEnteredMs := nowMs }
    (.ok, true,
      if nextState = .ready then { n with failureCount := 0#32, retryDeadlineMs := 0#64 } else n, w)
  | (status, w) => scheduleBackoff ops nowMs status n w

/-- `pbns_network_step` with valid operations. -/
def networkStep (nowMs : BitVec 64) (usbConnected : Bool) (n : Network) (w : σ) :
    Status × Bool × Network × σ :=
  if n.initialized = false then (.errArgument, false, n, w)
  else if n.failure ≠ .ok then (n.failure, false, n, w)
  else if usbConnected = false then
    if n.state = .down then (.ok, false, n, w)
    else
      let (n, w) := closeActiveConnection ops n w
      (.ok, true, { n with
        state := .down, failureCount := 0#32, retryDeadlineMs := 0#64, stateEnteredMs := 0#64 }, w)
  else if 0 < stateTimeout n.state ∧ n.stateEnteredMs ≤ nowMs ∧
      stateTimeout n.state ≤ (nowMs - n.stateEnteredMs).toNat then
    scheduleBackoff ops nowMs .errTimeout n w
  else
    match n.state with
    | .down =>
      match ops.wifiStart w with
      | (.ok, w) =>
        (.ok, true, { n with
          connectionActive := true, state := .wifiConnecting, stateEnteredMs := nowMs }, w)
      | (status, w) => scheduleBackoff ops nowMs status { n with connectionActive := true } w
    | .wifiConnecting => pollConnectingStage ops ops.wifiPoll .tcpConnecting nowMs n w
    | .tcpConnecting => pollConnectingStage ops ops.tcpPoll .sessionConnecting nowMs n w
    | .sessionConnecting => pollConnectingStage ops ops.sessionPoll .ready nowMs n w
    | .ready =>
      match ops.sessionPoll w with
      | (.ok, w) => (.ok, false, n, w)
      | (.errWouldBlock, w) => (.ok, false, n, w)
      | (status, w) => scheduleBackoff ops nowMs status n w
    | .backoff =>
      if n.retryDeadlineMs ≤ nowMs then
        (.ok, true, { n with state := .down, stateEnteredMs := nowMs }, w)
      else (.ok, false, n, w)

end Step

/-! ### The calls of a step -/

/-- A call of an operation and its status. -/
inductive NetworkCall
  | wifiStart (status : Status)
  | wifiPoll (status : Status)
  | tcpPoll (status : Status)
  | sessionPoll (status : Status)
  | close
  | randomU32 (status : Status)
  deriving DecidableEq

section Traced

variable {σ : Type}

/-- The operations, keeping the list of their calls. -/
def NetworkOps.traced (ops : NetworkOps σ) : NetworkOps (σ × List NetworkCall) where
  wifiStart w := let (status, s) := ops.wifiStart w.1; (status, s, w.2 ++ [.wifiStart status])
  wifiPoll w := let (status, s) := ops.wifiPoll w.1; (status, s, w.2 ++ [.wifiPoll status])
  tcpPoll w := let (status, s) := ops.tcpPoll w.1; (status, s, w.2 ++ [.tcpPoll status])
  sessionPoll w := let (status, s) := ops.sessionPoll w.1; (status, s, w.2 ++ [.sessionPoll status])
  close w := (ops.close w.1, w.2 ++ [.close])
  randomU32 w :=
    let (status, value, s) := ops.randomU32 w.1
    (status, value, s, w.2 ++ [.randomU32 status])

/-- A step, with what it saw, what it found, what it left and what it called. -/
structure NetworkTurn where
  nowMs : BitVec 64
  usbConnected : Bool
  before : Network
  after : Network
  calls : List NetworkCall

/-- Steps one after the other, with the clock and the USB state of each. -/
def networkRun (ops : NetworkOps σ) : List (BitVec 64 × Bool) → Network → σ → List NetworkTurn
  | [], _, _ => []
  | (nowMs, usbConnected) :: inputs, n, w =>
    let (_, _, n', w', calls) := networkStep ops.traced nowMs usbConnected n (w, [])
    ⟨nowMs, usbConnected, n, n', calls⟩ :: networkRun ops inputs n' w'

end Traced

/-- The states with a connection. -/
def NetworkState.connected : NetworkState → Bool
  | .down => false
  | .backoff => false
  | _ => true

/-- Whether there is a connection behind a call; `none` when the call is out of place. -/
def NetworkCall.follow : Bool → NetworkCall → Option Bool
  | false, .wifiStart _ => some true
  | true, .wifiStart _ => none
  | true, .close => some false
  | false, .close => none
  | active, _ => some active

/-- Whether there is a connection behind all of the calls. -/
def connection (active : Bool) (calls : List NetworkCall) : Option Bool :=
  calls.foldlM NetworkCall.follow active

/-- What holds of the controller between two steps. -/
structure Network.Sound (n : Network) : Prop where
  initialized : n.initialized = true
  active : n.connectionActive = n.state.connected
  ready : n.state = .ready → n.failureCount = 0#32

/-- The calls that ask how far a connection is. -/
def NetworkCall.IsPoll : NetworkCall → Prop
  | .wifiPoll _ => True
  | .tcpPoll _ => True
  | .sessionPoll _ => True
  | _ => False

/-- The controller behind a failure. -/
def Network.backedOff (n : Network) (nowMs : BitVec 64) (randomValue : BitVec 32) : Network :=
  { n with
    connectionActive := false
    retryDeadlineMs := deadlineAfter nowMs (jitteredBackoff n.failureCount.toNat randomValue)
    failureCount := if n.failureCount = BitVec.allOnes 32 then n.failureCount else n.failureCount + 1#32
    state := .backoff, stateEnteredMs := nowMs }

/-- The controller behind a failure of the random source. -/
def Network.halted (n : Network) (nowMs : BitVec 64) (status : Status) : Network :=
  { n with
    connectionActive := false, state := .down, retryDeadlineMs := 0#64, stateEnteredMs := nowMs
    failure := status }

/-- The calls of a step in front of a failure: the start that failed, or a poll that failed, or none
at a timeout. -/
def Network.Fails (n : Network) (calls : List NetworkCall) : Prop :=
  (n.state = .down ∧ ∃ status, calls = [.wifiStart status]) ∨
    (n.state.connected = true ∧ ∀ c ∈ calls, c.IsPoll)

/-- Everything a step can do: what it calls and what it leaves. -/
inductive Moves (nowMs : BitVec 64) (usbConnected : Bool) (n : Network) :
    List NetworkCall → Network → Prop
  | refuses (hfailed : n.failure ≠ .ok) : Moves nowMs usbConnected n [] n
  | stays {calls : List NetworkCall} (hok : n.failure = .ok) (hcalls : ∀ c ∈ calls, c.IsPoll)
      (husb : usbConnected = false → n.state = .down)
      (hbackoff : n.state = .backoff → calls = [] ∧ nowMs < n.retryDeadlineMs) :
      Moves nowMs usbConnected n calls n
  | unplugs (hok : n.failure = .ok) (husb : usbConnected = false) (hstate : n.state ≠ .down) :
      Moves nowMs usbConnected n (if n.connectionActive then [.close] else [])
        { n with
          connectionActive := false, state := .down, failureCount := 0#32, retryDeadlineMs := 0#64
          stateEnteredMs := 0#64 }
  | expires (hok : n.failure = .ok) (husb : usbConnected = true) (hstate : n.state = .backoff)
      (hnow : n.retryDeadlineMs ≤ nowMs) :
      Moves nowMs usbConnected n [] { n with state := .down, stateEnteredMs := nowMs }
  | starts (hok : n.failure = .ok) (husb : usbConnected = true) (hstate : n.state = .down) :
      Moves nowMs usbConnected n [.wifiStart .ok]
        { n with connectionActive := true, state := .wifiConnecting, stateEnteredMs := nowMs }
  | advances {calls : List NetworkCall} {next : NetworkState} (hok : n.failure = .ok)
      (husb : usbConnected = true) (hcalls : ∀ c ∈ calls, c.IsPoll)
      (hstate : n.state.connected = true) (hnext : next.connected = true) :
      Moves nowMs usbConnected n calls
        { n with
          state := next, stateEnteredMs := nowMs
          failureCount := if next = .ready then 0#32 else n.failureCount
          retryDeadlineMs := if next = .ready then 0#64 else n.retryDeadlineMs }
  | fails {calls : List NetworkCall} (randomValue : BitVec 32) (hok : n.failure = .ok)
      (husb : usbConnected = true) (hcalls : n.Fails calls) :
      Moves nowMs usbConnected n (calls ++ [.close, .randomU32 .ok]) (n.backedOff nowMs randomValue)
  | halts {calls : List NetworkCall} {status : Status} (hok : n.failure = .ok)
      (husb : usbConnected = true) (hcalls : n.Fails calls) (hstatus : status ≠ .ok) :
      Moves nowMs usbConnected n (calls ++ [.close, .randomU32 status]) (n.halted nowMs status)

section Moves

variable {σ : Type} (ops : NetworkOps σ) (nowMs : BitVec 64) {usbConnected : Bool} {n n' : Network}
  {calls : List NetworkCall}

/-- `schedule_backoff` closes the connection and draws a random value. -/
theorem scheduleBackoff_moves (hok : n.failure = .ok) (husb : usbConnected = true)
    (hcalls : n.Fails calls) (cause : Status) (w : σ) :
    let r := scheduleBackoff ops.traced nowMs cause { n with connectionActive := true } (w, calls)
    Moves nowMs usbConnected n r.2.2.2.2 r.2.2.1 := by
  intro r
  simp only [r, scheduleBackoff, closeActiveConnection, if_true, NetworkOps.traced]
  split
  · rename_i randomValue w' heq
    simp only [Prod.mk.injEq] at heq
    obtain ⟨hstatus, rfl, rfl⟩ := heq
    rw [hstatus, List.append_assoc]
    exact .fails _ hok husb hcalls
  · rename_i status randomValue w' hne heq
    simp only [Prod.mk.injEq] at heq
    obtain ⟨hstatus, rfl, rfl⟩ := heq
    rw [hstatus, List.append_assoc]
    exact .halts hok husb hcalls hne

theorem active_eq (h : n.connectionActive = true) : { n with connectionActive := true } = n := by
  rw [← h]

theorem pollConnectingStage_moves {poll : σ × List NetworkCall → Status × σ × List NetworkCall}
    {next : NetworkState} (w : σ) (hpoll : ∀ c ∈ (poll (w, [])).2.2, c.IsPoll)
    (hok : n.failure = .ok) (husb : usbConnected = true) (hstate : n.state.connected = true)
    (hactive : n.connectionActive = true) (hnext : next.connected = true) :
    let r := pollConnectingStage ops.traced poll next nowMs n (w, [])
    Moves nowMs usbConnected n r.2.2.2.2 r.2.2.1 := by
  have hidle : n.state = .backoff → False := by
    intro h
    rw [h] at hstate
    cases hstate
  intro r
  simp only [r, pollConnectingStage]
  split
  · rename_i w' heq
    rw [heq] at hpoll
    exact .stays hok hpoll (by simp [husb]) (fun h => (hidle h).elim)
  · rename_i w' heq
    rw [heq] at hpoll
    have hmoves : Moves nowMs usbConnected n _ _ := .advances hok husb hpoll hstate hnext
    split_ifs with hready
    · rwa [if_pos hready, if_pos hready] at hmoves
    · rwa [if_neg hready, if_neg hready] at hmoves
  · rename_i status w' hblock hfail heq
    rw [heq] at hpoll
    have hmoves := scheduleBackoff_moves ops nowMs hok husb (.inr ⟨hstate, hpoll⟩) status w'.1
    rwa [active_eq hactive] at hmoves

/-- **What a step does.** -/
theorem networkStep_moves (h : n.Sound) (w : σ) :
    let r := networkStep ops.traced nowMs usbConnected n (w, [])
    Moves nowMs usbConnected n r.2.2.2.2 r.2.2.1 := by
  intro r
  simp only [r, networkStep]
  rw [if_neg (by simp [h.initialized])]
  by_cases hok : n.failure = .ok
  swap
  · rw [if_pos hok]
    exact .refuses hok
  rw [if_neg (not_not.mpr hok)]
  by_cases husb : usbConnected = false
  · rw [if_pos husb]
    by_cases hstate : n.state = .down
    · rw [if_pos hstate]
      exact .stays hok (by simp) (fun _ => hstate) (fun hb => absurd (hstate.symm.trans hb) (by decide))
    · rw [if_neg hstate]
      have hmoves : Moves nowMs usbConnected n _ _ := .unplugs hok husb hstate
      cases hactive : n.connectionActive <;> simp_all [closeActiveConnection, NetworkOps.traced]
  rw [if_neg husb]
  have husb : usbConnected = true := by simpa using husb
  by_cases htimeout : 0 < stateTimeout n.state ∧ n.stateEnteredMs ≤ nowMs ∧
      stateTimeout n.state ≤ (nowMs - n.stateEnteredMs).toNat
  · rw [if_pos htimeout]
    -- only the states with a connection have a timeout
    have hstate : n.state.connected = true := by
      have hpos := htimeout.1
      rcases hs : n.state <;> rw [hs] at hpos <;> first | rfl | cases hpos
    have hnone : n.Fails [] := .inr ⟨hstate, by simp⟩
    have hmoves := scheduleBackoff_moves ops nowMs hok husb hnone .errTimeout w
    rwa [active_eq (h.active.trans hstate)] at hmoves
  · rw [if_neg htimeout]
    have hsound := h.active
    split
    · -- down
      rename_i hs
      have hcalls : (ops.traced.wifiStart (w, [])).2.2
          = [.wifiStart (ops.traced.wifiStart (w, [])).1] := rfl
      split
      · rename_i w' heq
        rw [heq] at hcalls
        simp only at hcalls ⊢
        rw [hcalls]
        exact .starts hok husb hs
      · rename_i status w' _ heq
        rw [heq] at hcalls
        have hfails : n.Fails w'.2 := .inl ⟨hs, status, hcalls⟩
        exact scheduleBackoff_moves ops nowMs hok husb hfails status w'.1
    case h_2 hs | h_3 hs | h_4 hs =>
      rw [hs] at hsound
      exact pollConnectingStage_moves ops nowMs w (by simp [NetworkOps.traced, NetworkCall.IsPoll]) hok
        husb (by rw [hs]; rfl) hsound rfl
    · -- ready
      rename_i hs
      have hpoll : ∀ c ∈ (ops.traced.sessionPoll (w, [])).2.2, c.IsPoll := by
        simp [NetworkOps.traced, NetworkCall.IsPoll]
      have hconnected : n.state.connected = true := by rw [hs]; rfl
      have hnot : n.state = .backoff → False := fun hb => absurd (hs.symm.trans hb) (by decide)
      split
      case h_1 heq | h_2 heq =>
        rw [heq] at hpoll
        exact .stays hok hpoll (by simp [husb]) (fun hb => (hnot hb).elim)
      · rename_i status w' _ _ heq
        rw [heq] at hpoll
        have hmoves := scheduleBackoff_moves ops nowMs hok husb (.inr ⟨hconnected, hpoll⟩) status w'.1
        rwa [active_eq (hsound.trans hconnected)] at hmoves
    · -- backoff
      rename_i hs
      split_ifs with hnow
      · exact .expires hok husb hs hnow
      · exact .stays hok (by simp) (by simp [husb]) (fun _ => ⟨rfl, BitVec.not_le.mp hnow⟩)

variable {nowMs}

theorem Network.Fails.not_backoff (h : n.Fails calls) : n.state ≠ .backoff := by
  intro hb
  rcases h with ⟨hstate, -⟩ | ⟨hstate, -⟩ <;> rw [hb] at hstate <;> cases hstate

variable (h : Moves nowMs usbConnected n calls n')

include h

theorem Moves.sound (hn : n.Sound) : n'.Sound := by
  cases h with
  | refuses | stays => exact hn
  | unplugs | starts => exact ⟨hn.initialized, rfl, fun h => absurd h (by simp)⟩
  | expires hok husb hstate hnow =>
    have hclosed : n.connectionActive = false := by rw [hn.active, hstate]; rfl
    exact ⟨hn.initialized, hclosed, fun h => absurd h (by simp)⟩
  | advances hok husb hcalls hstate hnext =>
    have hopen : n.connectionActive = true := hn.active.trans hstate
    exact ⟨hn.initialized, hopen.trans hnext.symm, fun h => if_pos h⟩
  | fails => exact ⟨hn.initialized, rfl, fun h => absurd h (by simp [Network.backedOff])⟩
  | halts => exact ⟨hn.initialized, rfl, fun h => absurd h (by simp [Network.halted])⟩

omit h in
theorem connection_append (active : Bool) (calls calls' : List NetworkCall) :
    connection active (calls ++ calls') = (connection active calls).bind (connection · calls') :=
  List.foldlM_append

omit h in
theorem connection_polls (active : Bool) (h : ∀ c ∈ calls, c.IsPoll) :
    connection active calls = some active := by
  induction calls with
  | nil => rfl
  | cons c calls ih =>
    have hc : NetworkCall.follow active c = some active := by
      have := h c List.mem_cons_self
      cases c <;> first | exact this.elim | (cases active <;> rfl)
    rw [connection, List.foldlM_cons, hc]
    exact ih fun c hc => h c (List.mem_cons_of_mem _ hc)

omit h in
/-- Behind the calls in front of a failure there is a connection. -/
theorem Network.Fails.connection (h : n.Fails calls) (hn : n.Sound) :
    connection n.connectionActive calls = some true := by
  rcases h with ⟨hstate, status, rfl⟩ | ⟨hstate, hpolls⟩
  · have hclosed : n.connectionActive = false := by rw [hn.active, hstate]; rfl
    rw [hclosed]
    rfl
  · rw [connection_polls _ hpolls, hn.active, hstate]

/-- The starts and closes of a step are in place. -/
theorem Moves.follows (hn : n.Sound) :
    connection n.connectionActive calls = some n'.connectionActive := by
  cases h with
  | refuses => rfl
  | stays hok hcalls => exact connection_polls _ hcalls
  | unplugs => cases hactive : n.connectionActive <;> rfl
  | expires => rfl
  | starts hok husb hstate =>
    have hclosed : n.connectionActive = false := by rw [hn.active, hstate]; rfl
    rw [hclosed]
    rfl
  | advances hok husb hcalls => exact connection_polls _ hcalls
  | fails _ hok husb hcalls | halts hok husb hcalls =>
    rw [connection_append, hcalls.connection hn]
    rfl

/-- A step that goes into backoff is one that fails. -/
theorem Moves.backedOff (hstate : n.state ≠ .backoff) (hstate' : n'.state = .backoff) :
    n.failure = .ok ∧ usbConnected = true ∧ ∃ randomValue, n' = n.backedOff nowMs randomValue := by
  cases h with
  | refuses | stays => exact absurd hstate' hstate
  | unplugs | expires | starts => simp at hstate'
  | advances hok husb hcalls hconnected hnext =>
    simp only at hstate'
    rw [hstate'] at hnext
    cases hnext
  | fails randomValue hok husb => exact ⟨hok, husb, randomValue, rfl⟩
  | halts => exact absurd hstate' (by simp [Network.halted])

omit h in
/-- In backoff a step with USB waits, or sees that the deadline has come. -/
theorem Moves.waits (h : Moves nowMs true n calls n') (hstate : n.state = .backoff) :
    calls = [] ∧ (n' = n ∨ n.retryDeadlineMs ≤ nowMs) := by
  cases h with
  | refuses => exact ⟨rfl, .inl rfl⟩
  | stays hok hcalls husb hbackoff => exact ⟨(hbackoff hstate).1, .inl rfl⟩
  | unplugs hok husb => cases husb
  | expires hok husb hstate hnow => exact ⟨rfl, .inr hnow⟩
  | starts hok husb hdown => cases hstate.symm.trans hdown
  | advances hok husb hcalls hconnected =>
    rw [hstate] at hconnected
    cases hconnected
  | fails _ hok husb hcalls | halts hok husb hcalls => exact absurd hstate hcalls.not_backoff

/-- A controller that has halted does nothing. -/
theorem Moves.dead (hfailed : n.failure ≠ .ok) : calls = [] ∧ n' = n := by
  cases h with
  | refuses => exact ⟨rfl, rfl⟩
  | _ => exact absurd ‹n.failure = .ok› hfailed

omit h in
theorem Network.Fails.no_random (h : n.Fails calls) (status : Status) : .randomU32 status ∉ calls := by
  intro hmem
  rcases h with ⟨-, started, rfl⟩ | ⟨-, hpolls⟩
  · simp at hmem
  · exact hpolls _ hmem

/-- A failure of the random source is the last call, and halts the controller. -/
theorem Moves.random_failed {status : Status} (hstatus : status ≠ .ok)
    (hmem : .randomU32 status ∈ calls) :
    calls.getLast? = some (.randomU32 status) ∧ n'.failure ≠ .ok := by
  cases h with
  | refuses | expires | starts => simp at hmem
  | stays hok hcalls | advances hok husb hcalls => exact (hcalls _ hmem).elim
  | unplugs => split_ifs at hmem <;> simp at hmem
  | fails _ hok husb hcalls =>
    simp [hcalls.no_random, hstatus] at hmem
  | halts hok husb hcalls hne =>
    simp only [List.mem_append, hcalls.no_random, List.mem_cons, reduceCtorEq, NetworkCall.randomU32.injEq,
      List.not_mem_nil, or_false, false_or] at hmem
    subst hmem
    exact ⟨by simp, hne⟩

end Moves

/-! ### The delay -/

theorem nominalBackoff_eq (failureCount : ℕ) :
    nominalBackoff failureCount = 250 * 2 ^ min failureCount 5 := by
  rw [nominalBackoff, Nat.shiftLeft_eq, backoffInitialMs, backoffMaxShift]

theorem nominalBackoff_le (failureCount : ℕ) : nominalBackoff failureCount ≤ backoffMaxMs := by
  rw [nominalBackoff_eq, backoffMaxMs]
  have : 2 ^ min failureCount 5 ≤ 2 ^ 5 := Nat.pow_le_pow_right (by decide) (Nat.min_le_right _ _)
  omega

/-- The jitter adds a quarter at most, and nothing gets over the cap. -/
theorem jitteredBackoff_bounds (failureCount : ℕ) (randomValue : BitVec 32) :
    nominalBackoff failureCount ≤ jitteredBackoff failureCount randomValue ∧
      jitteredBackoff failureCount randomValue
        ≤ min backoffMaxMs (nominalBackoff failureCount + nominalBackoff failureCount / 4) := by
  have hcap := nominalBackoff_le failureCount
  have hjitter : randomValue.toNat % (nominalBackoff failureCount / 4 + 1)
      < nominalBackoff failureCount / 4 + 1 := Nat.mod_lt _ (Nat.succ_pos _)
  simp only [jitteredBackoff]
  split_ifs <;> omega

theorem deadlineAfter_toNat (nowMs : BitVec 64) {delay : ℕ} (hdelay : delay < 2 ^ 64) :
    (deadlineAfter nowMs delay).toNat = min (nowMs.toNat + delay) (2 ^ 64 - 1) := by
  rw [deadlineAfter]
  split_ifs with hlate
  · rw [BitVec.toNat_allOnes]
    omega
  · rw [BitVec.toNat_add, BitVec.toNat_ofNat, Nat.mod_eq_of_lt hdelay,
      Nat.mod_eq_of_lt (by omega)]
    omega

/-! ### Runs -/

/-- The step goes into backoff. -/
def NetworkTurn.Fails (t : NetworkTurn) : Prop :=
  t.before.state ≠ .backoff ∧ t.after.state = .backoff

instance (t : NetworkTurn) : Decidable t.Fails := inferInstanceAs (Decidable (_ ∧ _))

/-- The number of failures, counted from the last ready state or USB disconnect. -/
def NetworkTurn.count (failures : ℕ) (t : NetworkTurn) : ℕ :=
  if t.usbConnected = false ∨ t.after.state = .ready then 0
  else if t.Fails then failures + 1 else failures

def consecutiveFailures (turns : List NetworkTurn) : ℕ := turns.foldl NetworkTurn.count 0

/-- When a step sees that USB is gone while the controller is down, there are no failures to forget:
this is where `pbns_network_step` does not reset the count. -/
def NetworkTurn.Forgets (t : NetworkTurn) : Prop :=
  t.usbConnected = false → t.before.state = .down → t.before.failure = .ok →
    t.before.failureCount = 0#32

/-- The turns of a run. -/
inductive Turns : Network → List NetworkTurn → Prop
  | nil (n : Network) : Turns n []
  | cons (t : NetworkTurn) {turns : List NetworkTurn}
      (moves : Moves t.nowMs t.usbConnected t.before t.calls t.after) (rest : Turns t.after turns) :
      Turns t.before (t :: turns)

/-- The controller counts the failures, up to the end of its counter. -/
def Network.Counts (n : Network) (failures : ℕ) : Prop :=
  n.failure = .ok → n.failureCount.toNat = min failures (2 ^ 32 - 1)

section Runs

variable {n : Network} {t : NetworkTurn} {turns : List NetworkTurn}

theorem networkRun_turns {σ : Type} (ops : NetworkOps σ) (inputs : List (BitVec 64 × Bool))
    (hn : n.Sound) (w : σ) : Turns n (networkRun ops inputs n w) := by
  induction inputs generalizing n w with
  | nil => exact .nil n
  | cons input inputs ih =>
    obtain ⟨nowMs, usbConnected⟩ := input
    have hmoves : Moves nowMs usbConnected n _ _ := networkStep_moves ops nowMs hn w
    exact Turns.cons ⟨nowMs, usbConnected, n, _, _⟩ hmoves (ih (hmoves.sound hn) _)

variable {failures : ℕ} {before : List NetworkTurn}

theorem NetworkTurn.count_reset (hreset : t.usbConnected = false ∨ t.after.state = .ready) : t.count failures = 0 := if_pos hreset

theorem NetworkTurn.count_kept (hkept : ¬ (t.usbConnected = false ∨ t.after.state = .ready))
    (hfails : ¬ t.Fails) :
    t.count failures = failures := by
  rw [NetworkTurn.count, if_neg hkept, if_neg hfails]

theorem NetworkTurn.count_fails (husb : t.usbConnected = true) (hfails : t.Fails) :
    t.count failures = failures + 1 := by
  rw [NetworkTurn.count, if_neg (by rw [hfails.2]; simp [husb]), if_pos hfails]

/-- A turn keeps the count right. -/
theorem Moves.counts {nowMs : BitVec 64} {usbConnected : Bool} {n n' : Network}
    {calls : List NetworkCall} (h : Moves nowMs usbConnected n calls n') (hn : n.Sound)
    (hk : n.Counts failures)
    (hforgets : (⟨nowMs, usbConnected, n, n', calls⟩ : NetworkTurn).Forgets) :
    n'.Counts (NetworkTurn.count failures ⟨nowMs, usbConnected, n, n', calls⟩) := by
  have hzero : ∀ {n : Network}, n.failureCount = 0#32 → n.Counts 0 := fun h _ => by rw [h]; rfl
  cases h with
  | refuses hfailed => exact fun hok => absurd hok hfailed
  | stays hok hcalls husb hbackoff =>
    by_cases hreset : usbConnected = false ∨ n.state = .ready
    · -- no USB in front of a controller that is down, or a controller that is ready
      rw [NetworkTurn.count_reset hreset]
      rcases hreset with hreset | hreset
      · exact hzero (hforgets hreset (husb hreset) hok)
      · exact hzero (hn.ready hreset)
    · rw [NetworkTurn.count_kept hreset fun hfails => hfails.1 hfails.2]
      exact hk
  | unplugs hok husb =>
    rw [NetworkTurn.count_reset (.inl husb)]
    exact hzero rfl
  | expires hok husb hstate =>
    rw [NetworkTurn.count_kept (by simp [husb]) fun hfails => hfails.1 hstate]
    exact hk
  | starts hok husb hstate =>
    rw [NetworkTurn.count_kept (by simp [husb]) fun hfails => absurd hfails.2 (by simp)]
    exact hk
  | advances hok husb hcalls hstate hnext =>
    rename_i next
    by_cases hready : next = .ready
    · rw [NetworkTurn.count_reset (.inr hready)]
      exact hzero (if_pos hready)
    · have hnot : next ≠ .backoff := by
        rintro rfl
        cases hnext
      rw [NetworkTurn.count_kept (by simp [husb, hready]) fun hfails => hnot hfails.2]
      intro hok
      rw [← hk hok]
      exact congrArg BitVec.toNat (if_neg hready)
  | fails randomValue hok husb hcalls =>
    rw [NetworkTurn.count_fails husb ⟨hcalls.not_backoff, rfl⟩]
    intro _
    have hbefore := hk hok
    have hmax : (BitVec.allOnes 32).toNat = 2 ^ 32 - 1 := BitVec.toNat_allOnes
    simp only [Network.backedOff]
    split_ifs with hfull
    · rw [hfull, hmax] at hbefore
      rw [hfull, hmax]
      omega
    · -- the counter is not at its end, so that it goes up by one
      have hlt : n.failureCount.toNat ≠ 2 ^ 32 - 1 :=
        fun h => hfull (BitVec.eq_of_toNat_eq (h.trans hmax.symm))
      have hone : (n.failureCount + 1#32).toNat = n.failureCount.toNat + 1 := by
        rw [BitVec.toNat_add]
        exact Nat.mod_eq_of_lt (by have := n.failureCount.isLt; simp only [BitVec.toNat_ofNat]; omega)
      rw [hone]
      omega
  | halts hok husb hcalls hstatus => exact fun hok' => absurd hok' hstatus

/-- The delay behind a failure goes by the number of failures. -/
theorem Moves.delays {nowMs : BitVec 64} {n : Network} (hk : n.Counts failures)
    (hok : n.failure = .ok) (randomValue : BitVec 32) :
    ∃ delay, 250 * 2 ^ min failures 5 ≤ delay ∧
      delay ≤ min 8000 (250 * 2 ^ min failures 5 + 250 * 2 ^ min failures 5 / 4) ∧
      (n.backedOff nowMs randomValue).retryDeadlineMs.toNat
        = min (nowMs.toNat + delay) (2 ^ 64 - 1) := by
  have hnominal : nominalBackoff n.failureCount.toNat = 250 * 2 ^ min failures 5 := by
    rw [nominalBackoff_eq, hk hok]
    congr 2
    omega
  obtain ⟨hlow, hhigh⟩ := jitteredBackoff_bounds n.failureCount.toNat randomValue
  rw [hnominal] at hlow hhigh
  exact ⟨_, hlow, hhigh, deadlineAfter_toNat nowMs (by rw [backoffMaxMs] at hhigh; omega)⟩

theorem Turns.drop (h : Turns n (before ++ turns)) (hn : n.Sound) :
    ∃ n', n'.Sound ∧ Turns n' turns := by
  induction before generalizing n with
  | nil => exact ⟨n, hn, h⟩
  | cons t before ih =>
    obtain _ | ⟨_, moves, rest⟩ := h
    exact ih rest (moves.sound hn)

theorem Turns.sound (h : Turns n turns) (hn : n.Sound) : ∀ t ∈ turns, t.after.Sound := by
  induction h with
  | nil => simp
  | cons t moves rest ih =>
    have hafter := moves.sound hn
    exact List.forall_mem_cons.mpr ⟨hafter, ih hafter⟩

/-- The starts and closes of a run are in place. -/
theorem Turns.follows (h : Turns n turns) (hn : n.Sound) :
    (connection n.connectionActive (turns.flatMap NetworkTurn.calls)).isSome := by
  induction h with
  | nil => rfl
  | cons t moves rest ih =>
    rw [List.flatMap_cons, connection_append, moves.follows hn]
    exact ih (moves.sound hn)

theorem Turns.delays (h : Turns n (before ++ t :: turns)) (hn : n.Sound) (hk : n.Counts failures)
    (hforgets : ∀ s ∈ before, s.Forgets) (hfails : t.Fails) :
    ∃ delay, 250 * 2 ^ min (before.foldl NetworkTurn.count failures) 5 ≤ delay ∧
      delay ≤ min 8000 (250 * 2 ^ min (before.foldl NetworkTurn.count failures) 5
        + 250 * 2 ^ min (before.foldl NetworkTurn.count failures) 5 / 4) ∧
      t.after.retryDeadlineMs.toNat = min (t.nowMs.toNat + delay) (2 ^ 64 - 1) := by
  induction before generalizing n failures with
  | nil =>
    obtain _ | ⟨_, moves, rest⟩ := h
    obtain ⟨hok, -, randomValue, hafter⟩ := moves.backedOff hfails.1 hfails.2
    rw [hafter]
    exact Moves.delays hk hok randomValue
  | cons s before ih =>
    obtain _ | ⟨_, moves, rest⟩ := h
    have hcounts := moves.counts hn hk (hforgets s List.mem_cons_self)
    exact ih rest (moves.sound hn) hcounts fun s hs => hforgets s (List.mem_cons_of_mem _ hs)

/-- From backoff on there is no start until a step has seen the deadline. -/
theorem Turns.waits {between : List NetworkTurn} (h : Turns n (between ++ t :: turns))
    (hstate : n.state = .backoff) (husb : ∀ s ∈ between ++ [t], s.usbConnected = true)
    {status : Status} (hstart : .wifiStart status ∈ t.calls) :
    ∃ s ∈ between, n.retryDeadlineMs ≤ s.nowMs := by
  induction between generalizing n with
  | nil =>
    obtain _ | ⟨_, moves, rest⟩ := h
    rw [husb t (by simp)] at moves
    rw [(moves.waits hstate).1] at hstart
    simp at hstart
  | cons s between ih =>
    obtain _ | ⟨_, moves, rest⟩ := h
    rw [husb s (by simp)] at moves
    rcases (moves.waits hstate).2 with hsame | hseen
    · rw [hsame] at rest
      obtain ⟨s', hs', hseen⟩ := ih rest hstate fun s' hs' => husb s' (List.mem_cons_of_mem _ hs')
      exact ⟨s', List.mem_cons_of_mem _ hs', hseen⟩
    · exact ⟨s, List.mem_cons_self, hseen⟩

theorem Turns.dead (h : Turns n turns) (hfailed : n.failure ≠ .ok) : ∀ t ∈ turns, t.calls = [] := by
  induction h with
  | nil => simp
  | cons t moves rest ih =>
    obtain ⟨hcalls, hafter⟩ := moves.dead hfailed
    exact List.forall_mem_cons.mpr ⟨hcalls, ih (by rw [hafter]; exact hfailed)⟩

theorem Turns.head (h : Turns n (t :: turns)) :
    t.before = n ∧ Moves t.nowMs t.usbConnected t.before t.calls t.after ∧ Turns t.after turns := by
  obtain _ | ⟨_, moves, rest⟩ := h
  exact ⟨rfl, moves, rest⟩

/-- A failure is one more than there were. -/
theorem consecutiveFailures_snoc (h : Moves t.nowMs t.usbConnected t.before t.calls t.after)
    (hfails : t.Fails) :
    consecutiveFailures (before ++ [t]) = consecutiveFailures before + 1 := by
  obtain ⟨-, husb, -⟩ := h.backedOff hfails.1 hfails.2
  rw [consecutiveFailures, List.foldl_append, List.foldl_cons, List.foldl_nil,
    NetworkTurn.count_fails husb hfails]
  rfl

end Runs

/-- **One connection at a time, and bounded retries.**  In every run since `pbns_network_init`:

* between steps the connection is active exactly in the states that have one;
* `wifi_start` and `close` take turns, beginning with `wifi_start`;
* behind the `k`-th failure since the last ready state or USB disconnect the deadline is
  `250 * 2 ^ min (k - 1) 5` ms away, and up to a quarter more within the cap of 8000 ms, at most at
  the end of the clock, when no step before it saw USB disconnected while the controller was down
  and still counted failures;
* from a failure on, as long as USB is connected, there is no `wifi_start` before a step has seen
  the deadline;
* a failure of the random source is the last call of all. -/
theorem network_controller {σ : Type} (ops : NetworkOps σ) (w : σ)
    (inputs : List (BitVec 64 × Bool)) :
    let turns := networkRun ops inputs networkInit w
    (∀ t ∈ turns, t.after.connectionActive = t.after.state.connected) ∧
    (connection false (turns.flatMap NetworkTurn.calls)).isSome ∧
    (∀ before t after, turns = before ++ t :: after → t.Fails → (∀ s ∈ before, s.Forgets) →
      ∃ delay, 250 * 2 ^ min (consecutiveFailures (before ++ [t]) - 1) 5 ≤ delay ∧
        delay ≤ min 8000 (250 * 2 ^ min (consecutiveFailures (before ++ [t]) - 1) 5
          + 250 * 2 ^ min (consecutiveFailures (before ++ [t]) - 1) 5 / 4) ∧
        t.after.retryDeadlineMs.toNat = min (t.nowMs.toNat + delay) (2 ^ 64 - 1)) ∧
    (∀ before f between t after status, turns = before ++ f :: (between ++ t :: after) → f.Fails →
      (∀ s ∈ between ++ [t], s.usbConnected = true) → .wifiStart status ∈ t.calls →
      ∃ s ∈ between, f.after.retryDeadlineMs ≤ s.nowMs) ∧
    ∀ before f after status, turns = before ++ f :: after → .randomU32 status ∈ f.calls →
      status ≠ .ok → f.calls.getLast? = some (.randomU32 status) ∧ ∀ t ∈ after, t.calls = [] := by
  intro turns
  have hsound : networkInit.Sound := ⟨rfl, rfl, fun h => absurd h (by decide)⟩
  have hturns : Turns networkInit turns := networkRun_turns ops inputs hsound w
  refine ⟨fun t ht => (hturns.sound hsound t ht).active, hturns.follows hsound, ?_, ?_, ?_⟩
  · intro before t after heq hfails hforgets
    rw [heq] at hturns
    obtain ⟨n, -, hrest⟩ := hturns.drop hsound
    rw [consecutiveFailures_snoc hrest.head.2.1 hfails, Nat.add_sub_cancel]
    exact hturns.delays hsound (fun _ => rfl) hforgets hfails
  · intro before f between t after status heq hfails husb hstart
    rw [heq] at hturns
    obtain ⟨n, -, hrest⟩ := hturns.drop hsound
    exact hrest.head.2.2.waits hfails.2 husb hstart
  · intro before f after status heq hmem hstatus
    rw [heq] at hturns
    obtain ⟨n, -, hrest⟩ := hturns.drop hsound
    obtain ⟨hlast, hfailed⟩ := hrest.head.2.1.random_failed hstatus hmem
    exact ⟨hlast, hrest.head.2.2.dead hfailed⟩

/-- A network that is never there, and a random source that draws zeros. -/
def sampleNetwork : NetworkOps Unit where
  wifiStart _ := (.errTransport, ())
  wifiPoll _ := (.errTransport, ())
  tcpPoll _ := (.errTransport, ())
  sessionPoll _ := (.errTransport, ())
  close _ := ()
  randomU32 _ := (.ok, 0#32, ())

/-- A failure, the end of the backoff, a look at USB that is gone, and another failure. -/
def sampleReplug : List NetworkTurn :=
  networkRun sampleNetwork [(0#64, true), (250#64, true), (250#64, false), (251#64, true)]
    networkInit ()

theorem network_controller_sample : ∃ t after, sampleReplug = [] ++ t :: after ∧ t.Fails ∧
    ∃ delay, 250 ≤ delay ∧ delay ≤ 312 ∧
      t.after.retryDeadlineMs.toNat = min (t.nowMs.toNat + delay) (2 ^ 64 - 1) := by
  have hfails : (sampleReplug.head (by decide)).Fails := by decide
  have hsplit : sampleReplug = [] ++ sampleReplug.head (by decide) :: sampleReplug.tail := by
    rw [List.nil_append, List.cons_head_tail]
  obtain ⟨delay, hlow, hhigh, hdeadline⟩ := (network_controller sampleNetwork ()
    [(0#64, true), (250#64, true), (250#64, false), (251#64, true)]).2.2.1 [] _ _ hsplit hfails (by simp)
  exact ⟨_, _, hsplit, hfails, delay, Nat.le_trans (by decide) hlow, Nat.le_trans hhigh (by decide),
    hdeadline⟩

/-- USB was disconnected in front of the last failure, which is the first since then; its delay is
that of a second. -/
theorem network_controller_remembers :
    ∃ before t, sampleReplug = before ++ [t] ∧ t.Fails ∧
      consecutiveFailures (before ++ [t]) = 1 ∧ t.nowMs = 251#64 ∧ t.after.retryDeadlineMs = 751#64 := by
  have hsplit : sampleReplug = sampleReplug.take 3 ++ sampleReplug.drop 3 :=
    (List.take_append_drop 3 sampleReplug).symm
  exact ⟨sampleReplug.take 3, _, hsplit, by decide, by decide, rfl, by decide⟩

end Pbns
