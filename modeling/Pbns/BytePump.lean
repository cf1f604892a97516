/-
The byte pump (`pico/src/byte_pump.c`): carries octets between the USB side and the TLS side
of the proxy through one ring for each direction.

The two endpoints behave in any way over a state of their own.  They are run together with
the list of the calls they get (`PumpEndpoint.traced`), and `Carries` compares that list with
the ring of a direction: what the sink took and what the ring holds is what the source gave.

* `writePending_passed`, `readAvailable_passed` — one endpoint call in one direction;
* `Conserves.step`, `Conserves.batch` — what a step and a batch keep;
* `byte_pump_conserves` — the same for every run of public calls.
-/
import Pbns.ByteRing

namespace Pbns

open Guard

/-- `pbns_pump_endpoint`, over the state `σ` of whatever is behind the two endpoints.

A read is given the capacity of its destination.  It returns a status (`none` when it is not
one of `pbns_status`), the octets it counts as received, and what it leaves in the destination
behind them.  A write returns its status and the number of octets it took. -/
structure PumpEndpoint (σ : Type) where
  read : ℕ → σ → Option Status × Octets × Octets × σ
  write : Octets → σ → Option Status × ℕ × σ

/-- `pump_direction`, with the values behind its pointers; the generations are `none` where
the source has null pointers. -/
structure PumpDirection where
  ring : ByteRing
  sourceClosed : Bool
  sourceReadGeneration : Option ℕ
  sinkWriteGeneration : Option ℕ
  minimumWrite : ℕ
  minimumWritable : ℕ
  forceWrite : Bool

/-- `pbns_byte_pump_policy` -/
structure BytePumpPolicy where
  usbToTlsMinimumWrite : ℕ
  tlsToUsbMinimumWritable : ℕ
  forceUsbToTlsWrite : Bool
  deriving DecidableEq

/-- `pbns_byte_pump` -/
structure BytePump where
  usbToTls : ByteRing
  tlsToUsb : ByteRing
  usbSourceClosed : Bool
  tlsSourceClosed : Bool
  usbToTlsReadGeneration : ℕ
  usbToTlsWriteGeneration : ℕ
  initialized : Bool
  cancelled : Bool
  failed : Bool
  deriving DecidableEq

/-- `(pbns_byte_pump){0}` -/
def BytePump.zero : BytePump := ⟨.zero, .zero, false, false, 0, 0, false, false, false⟩

def pumpBatchMaxSteps : ℕ := 8

section Model

variable {σ : Type}

/-- What the functions on one direction return and leave behind. -/
structure Processed (σ : Type) where
  status : Status
  direction : PumpDirection
  madeProgress : Bool
  world : σ

def shouldHoldWrite (direction : PumpDirection) : Bool :=
  let size := byteRingSize direction.ring
  direction.minimumWrite ≠ 0 && size < direction.minimumWrite && !direction.forceWrite
    && !direction.sourceClosed && size < byteRingCapacity direction.ring

def writePending (sink : PumpEndpoint σ) (direction : PumpDirection) (madeProgress : Bool)
    (w : σ) : Processed σ :=
  match byteRingReadable direction.ring with
  | .error status => ⟨status, direction, madeProgress, w⟩
  | .ok readable =>
    if readable.length = 0 ∨ shouldHoldWrite direction = true then
      ⟨.ok, direction, madeProgress, w⟩
    else
      match sink.write readable w with
      | (none, _, w) => ⟨.errIo, direction, madeProgress, w⟩
      | (some status, written, w) =>
        if status = .errWouldBlock then
          ⟨if written = 0 then .ok else .errIo, direction, madeProgress, w⟩
        else if status ≠ .ok then ⟨status, direction, madeProgress, w⟩
        else if written = 0 ∨ readable.length < written then
          ⟨.errIo, direction, madeProgress, w⟩
        else
          match byteRingConsume direction.ring written with
          | .error status => ⟨status, direction, madeProgress, w⟩
          | .ok ring =>
            ⟨.ok, { direction with
              ring := ring
              sinkWriteGeneration := direction.sinkWriteGeneration.map (· + 1) }, true, w⟩

/-- The source writes into the storage of the ring, also when its answer is then refused. -/
def readAvailable (source : PumpEndpoint σ) (direction : PumpDirection) (madeProgress : Bool)
    (w : σ) : Processed σ :=
  if direction.sourceClosed then ⟨.ok, direction, madeProgress, w⟩
  else
    match byteRingWritable direction.ring with
    | .error status => ⟨status, direction, madeProgress, w⟩
    | .ok capacity =>
      if capacity = 0 then ⟨.ok, direction, madeProgress, w⟩
      else if direction.minimumWritable ≠ 0 ∧ byteRingSize direction.ring ≠ 0
          ∧ capacity < direction.minimumWritable then ⟨.ok, direction, madeProgress, w⟩
      else
        match source.read capacity w with
        | (answer, data, extra, w) =>
          let direction := { direction with
            ring := direction.ring.stored ((data ++ extra).take capacity) }
          match answer with
          | none => ⟨.errIo, direction, madeProgress, w⟩
          | some status =>
            if status = .errWouldBlock then
              ⟨if data.length = 0 then .ok else .errIo, direction, madeProgress, w⟩
            else if status ≠ .ok then ⟨status, direction, madeProgress, w⟩
            else if capacity < data.length then ⟨.errIo, direction, madeProgress, w⟩
            else if data.length = 0 then
              ⟨.ok, { direction with sourceClosed := true }, true, w⟩
            else
              match byteRingCommit direction.ring data.length with
              | .error status => ⟨status, direction, madeProgress, w⟩
              | .ok ring =>
                ⟨.ok, { direction with
                  ring := ring
                  sourceReadGeneration := direction.sourceReadGeneration.map (· + 1) }, true, w⟩

def processDirection (source sink : PumpEndpoint σ) (direction : PumpDirection)
    (madeProgress : Bool) (w : σ) : Processed σ :=
  let written := writePending sink direction madeProgress w
  if written.status ≠ .ok then written
  else readAvailable source written.direction written.madeProgress written.world

/-- `overlap` is the answer of `buffers_overlap` for the two storages. -/
def bytePumpInit (overlap : Bool) (usbToTlsStorage tlsToUsbStorage : Buffer) : BytePump :=
  let usbToTls := byteRingInit usbToTlsStorage
  let tlsToUsb := byteRingInit tlsToUsbStorage
  if !usbToTls.initialized || !tlsToUsb.initialized || overlap then .zero
  else { BytePump.zero with usbToTls := usbToTls, tlsToUsb := tlsToUsb, initialized := true }

def bytePumpReset (pump : BytePump) : BytePump :=
  if pump.initialized then
    { pump with
      usbToTls := byteRingReset pump.usbToTls
      tlsToUsb := byteRingReset pump.tlsToUsb
      usbSourceClosed := false
      tlsSourceClosed := false
      usbToTlsReadGeneration := 0
      usbToTlsWriteGeneration := 0
      cancelled := false
      failed := false }
  else pump

def bytePumpCancel (pump : BytePump) : BytePump :=
  if pump.initialized then
    { pump with
      usbToTls := byteRingReset pump.usbToTls
      tlsToUsb := byteRingReset pump.tlsToUsb
      cancelled := true }
  else pump

def bytePumpIsComplete (pump : BytePump) : Bool :=
  pump.initialized && !pump.cancelled && !pump.failed && pump.usbSourceClosed
    && pump.tlsSourceClosed && byteRingSize pump.usbToTls = 0 && byteRingSize pump.tlsToUsb = 0

/-- What a step returns and leaves behind. -/
structure Stepped (σ : Type) where
  status : Status
  pump : BytePump
  madeProgress : Bool
  world : σ

/-- The direction a step hands to `process_direction` first. -/
def BytePump.usbToTlsDirection (pump : BytePump) (policy : BytePumpPolicy) : PumpDirection :=
  ⟨pump.usbToTls, pump.usbSourceClosed, some pump.usbToTlsReadGeneration,
    some pump.usbToTlsWriteGeneration, policy.usbToTlsMinimumWrite, 0, policy.forceUsbToTlsWrite⟩

def BytePump.tlsToUsbDirection (pump : BytePump) (policy : BytePumpPolicy) : PumpDirection :=
  ⟨pump.tlsToUsb, pump.tlsSourceClosed, none, none, 0, policy.tlsToUsbMinimumWritable, false⟩

/-- The pump behind the pointers of its first direction. -/
def BytePump.setUsbToTls (pump : BytePump) (direction : PumpDirection) : BytePump :=
  { pump with
    usbToTls := direction.ring
    usbSourceClosed := direction.sourceClosed
    usbToTlsReadGeneration := direction.sourceReadGeneration.getD pump.usbToTlsReadGeneration
    usbToTlsWriteGeneration := direction.sinkWriteGeneration.getD pump.usbToTlsWriteGeneration }

def BytePump.setTlsToUsb (pump : BytePump) (direction : PumpDirection) : BytePump :=
  { pump with tlsToUsb := direction.ring, tlsSourceClosed := direction.sourceClosed }

/-- `fail_pump` -/
def BytePump.fail (pump : BytePump) : BytePump := { pump with failed := true }

def bytePumpStepWithPolicy (usb tls : PumpEndpoint σ) (policy : BytePumpPolicy) (pump : BytePump)
    (w : σ) : Stepped σ :=
  if !pump.initialized || pump.cancelled || pump.failed then ⟨.errState, pump, false, w⟩
  else if bytePumpIsComplete pump then ⟨.ok, pump, false, w⟩
  else
    let usbToTls := processDirection usb tls (pump.usbToTlsDirection policy) false w
    let pump := pump.setUsbToTls usbToTls.direction
    if usbToTls.status ≠ .ok then
      ⟨usbToTls.status, pump.fail, usbToTls.madeProgress, usbToTls.world⟩
    else
      let tlsToUsb := processDirection tls usb (pump.tlsToUsbDirection policy)
        usbToTls.madeProgress usbToTls.world
      let pump := pump.setTlsToUsb tlsToUsb.direction
      if tlsToUsb.status = .ok then ⟨.ok, pump, tlsToUsb.madeProgress, tlsToUsb.world⟩
      else ⟨tlsToUsb.status, pump.fail, tlsToUsb.madeProgress, tlsToUsb.world⟩

/-- What a batch returns and leaves behind. -/
structure Batched (σ : Type) where
  status : Status
  pump : BytePump
  steps : ℕ
  madeProgress : Bool
  world : σ

/-- The loop of `pbns_byte_pump_batch_with_policy`, with the number of steps it may still
make. -/
def batchLoop (usb tls : PumpEndpoint σ) (forcedWriteGeneration : ℕ) :
    ℕ → BytePumpPolicy → Batched σ → Batched σ
  | 0, _, batch => batch
  | left + 1, policy, batch =>
    let step := bytePumpStepWithPolicy usb tls policy batch.pump batch.world
    let batch : Batched σ := ⟨step.status, step.pump, batch.steps + 1,
      batch.madeProgress || step.madeProgress, step.world⟩
    if step.status ≠ .ok then batch
    else
      let policy := if policy.forceUsbToTlsWrite
          && step.pump.usbToTlsWriteGeneration ≠ forcedWriteGeneration then
        { policy with forceUsbToTlsWrite := false } else policy
      if !step.madeProgress || bytePumpIsComplete step.pump then batch
      else batchLoop usb tls forcedWriteGeneration left policy batch

def bytePumpBatchWithPolicy (usb tls : PumpEndpoint σ) (policy : BytePumpPolicy) (pump : BytePump)
    (w : σ) : Batched σ :=
  if !pump.initialized || pump.cancelled || pump.failed then ⟨.errState, pump, 0, false, w⟩
  else
    batchLoop usb tls pump.usbToTlsWriteGeneration pumpBatchMaxSteps policy
      ⟨.ok, pump, 0, false, w⟩

end Model

/-! ### The calls the endpoints get -/

inductive PumpSide
  | usb
  | tls
  deriving DecidableEq

/-- A call on an endpoint and its answer. -/
inductive EndpointCall
  | read (side : PumpSide) (capacity : ℕ) (status : Option Status) (data : Octets)
  | write (side : PumpSide) (offered : Octets) (status : Option Status) (written : ℕ)
  deriving DecidableEq

namespace EndpointCall

/-- The octets a call got from the endpoint on `side`. -/
def taken (side : PumpSide) : EndpointCall → Octets
  | .read s capacity status data =>
    if s = side ∧ status = some .ok ∧ data.length ≤ capacity then data else []
  | .write _ _ _ _ => []

/-- The octets the endpoint on `side` accepted in a call. -/
def accepted (side : PumpSide) : EndpointCall → Octets
  | .read _ _ _ _ => []
  | .write s offered status written =>
    if s = side ∧ status = some .ok ∧ written ≤ offered.length then offered.take written else []

def Reads (side : PumpSide) : EndpointCall → Prop
  | .read s _ _ _ => s = side
  | .write _ _ _ _ => False

/-- The endpoint on `side` reported that it is closed. -/
def Closes (side : PumpSide) : EndpointCall → Prop
  | .read s _ status data => s = side ∧ status = some .ok ∧ data = []
  | .write _ _ _ _ => False

end EndpointCall

/-- What was read from the source on `side`, in order. -/
def bytesRead (side : PumpSide) (log : List EndpointCall) : Octets :=
  log.flatMap (EndpointCall.taken side)

/-- What was written to the sink on `side`, in order. -/
def bytesWritten (side : PumpSide) (log : List EndpointCall) : Octets :=
  log.flatMap (EndpointCall.accepted side)

/-- No source on `side` is read after it closed. -/
def QuietAfterClose (side : PumpSide) (log : List EndpointCall) : Prop :=
  log.Pairwise fun earlier later => earlier.Closes side → ¬ later.Reads side

/-- The endpoint on `side`, keeping the list of the calls. -/
def PumpEndpoint.traced {σ : Type} (side : PumpSide) (endpoint : PumpEndpoint σ) :
    PumpEndpoint (σ × List EndpointCall) where
  read capacity w :=
    let (status, data, extra, s) := endpoint.read capacity w.1
    (status, data, extra, s, w.2 ++ [.read side capacity status data])
  write offered w :=
    let (status, written, s) := endpoint.write offered w.1
    (status, written, s, w.2 ++ [.write side offered status written])

/-- A direction from `source` to `sink` agrees with the calls so far. -/
structure Carries (source sink : PumpSide) (ring : ByteRing) (closed : Bool)
    (log : List EndpointCall) : Prop where
  valid : ring.Valid
  balance : bytesRead source log = bytesWritten sink log ++ ring.contents
  closed_iff : closed = true ↔ ∃ call ∈ log, call.Closes source
  quiet : QuietAfterClose source log

/-- One more call: the ring changes by what the call took and gave. -/
theorem Carries.append {source sink : PumpSide} {ring ring' : ByteRing} {closed closed' : Bool}
    {log : List EndpointCall} {call : EndpointCall} (h : Carries source sink ring closed log)
    (hvalid : ring'.Valid)
    (hbalance : ring.contents ++ call.taken source = call.accepted sink ++ ring'.contents)
    (hclosed : closed' = true ↔ closed = true ∨ call.Closes source)
    (hread : call.Reads source → closed = false) :
    Carries source sink ring' closed' (log ++ [call]) where
  valid := hvalid
  balance := by
    have hbytes := h.balance
    unfold bytesRead bytesWritten at hbytes ⊢
    rw [List.flatMap_append, List.flatMap_append, List.flatMap_singleton, List.flatMap_singleton,
      hbytes, List.append_assoc, hbalance, List.append_assoc]
  closed_iff := by
    rw [hclosed, h.closed_iff]
    simp only [List.mem_append, List.mem_singleton]
    constructor
    · rintro (⟨c, hc, hcloses⟩ | hcloses)
      · exact ⟨c, .inl hc, hcloses⟩
      · exact ⟨call, .inr rfl, hcloses⟩
    · rintro ⟨c, hc | rfl, hcloses⟩
      · exact .inl ⟨c, hc, hcloses⟩
      · exact .inr hcloses
  quiet := by
    refine List.pairwise_append.mpr ⟨h.quiet, List.pairwise_singleton _ _, ?_⟩
    intro earlier hearlier later hlater hcloses hreads
    rw [List.mem_singleton] at hlater
    subst hlater
    have hopen := hread hreads
    rw [h.closed_iff.mpr ⟨earlier, hearlier, hcloses⟩] at hopen
    simp at hopen

/-- What a function on the direction from `source` to `sink` keeps: its own direction goes on
agreeing with the calls, and the opposite one does not notice. -/
structure Passed (source sink : PumpSide) (before after : PumpDirection)
    (log log' : List EndpointCall) : Prop where
  own : Carries source sink before.ring before.sourceClosed log →
    Carries source sink after.ring after.sourceClosed log'
  other : ∀ ring closed, Carries sink source ring closed log →
    Carries sink source ring closed log'

theorem Passed.refl (source sink : PumpSide) (direction : PumpDirection)
    (log : List EndpointCall) : Passed source sink direction direction log log :=
  ⟨id, fun _ _ => id⟩

theorem Passed.trans {source sink : PumpSide} {d₁ d₂ d₃ : PumpDirection}
    {log₁ log₂ log₃ : List EndpointCall} (h : Passed source sink d₁ d₂ log₁ log₂)
    (h' : Passed source sink d₂ d₃ log₂ log₃) : Passed source sink d₁ d₃ log₁ log₃ :=
  ⟨h'.own ∘ h.own, fun ring closed => h'.other ring closed ∘ h.other ring closed⟩

section Direction

variable {σ : Type} {source sink : PumpSide} {endpoint : PumpEndpoint σ}
  {direction : PumpDirection} {madeProgress : Bool} {s : σ} {log : List EndpointCall}

variable {status : Option Status} {result : Status} {after : PumpDirection} {progress : Bool} {s' : σ}
  {log' : List EndpointCall}

/-- A write to the sink that the ring follows. -/
theorem Passed.write (hne : source ≠ sink) {offered : Octets} {written : ℕ}
    (hvalid : after.ring.Valid) (hclosed : after.sourceClosed = direction.sourceClosed)
    (hring : direction.ring.contents
      = (EndpointCall.write sink offered status written).accepted sink ++ after.ring.contents) :
    Passed source sink direction after log (log ++ [.write sink offered status written]) where
  own h := h.append hvalid (by rw [EndpointCall.taken, List.append_nil]; exact hring)
    (by rw [hclosed, EndpointCall.Closes, or_false]) False.elim
  other ring closed h := by
    refine h.append h.valid ?_ (by rw [EndpointCall.Closes, or_false]) False.elim
    rw [EndpointCall.taken, EndpointCall.accepted, if_neg (fun hs => hne hs.1.symm)]
    exact List.append_nil _

variable (hne : source ≠ sink)

include hne

/-- A read from the open source that the ring follows. -/
theorem Passed.read {capacity : ℕ} {data : Octets} (hopen : direction.sourceClosed = false)
    (hvalid : after.ring.Valid)
    (hclosed : after.sourceClosed = true ↔ status = some .ok ∧ data = [])
    (hring : direction.ring.contents ++ (EndpointCall.read source capacity status data).taken source = after.ring.contents)
    :
    Passed source sink direction after log (log ++ [.read source capacity status data]) where
  own h := by
    refine h.append hvalid ?_ ?_ fun _ => hopen
    · rw [EndpointCall.accepted, List.nil_append]
      exact hring
    · rw [hclosed, hopen]
      simp [EndpointCall.Closes]
  other ring closed h := by
    refine h.append h.valid ?_ ?_ fun hs => absurd hs hne
    · rw [EndpointCall.taken, EndpointCall.accepted, if_neg (fun hs => hne hs.1)]
      exact List.append_nil _
    · rw [EndpointCall.Closes]
      simp [hne]

/-- A refused write leaves the ring alone. -/
theorem Passed.write_refused {offered : Octets} {written : ℕ} (hvalid : direction.ring.Valid)
    (hrefused : ¬ (status = some .ok ∧ written ≤ offered.length)) :
    Passed source sink direction direction log
      (log ++ [.write sink offered status written]) := by
  refine Passed.write hne hvalid rfl ?_
  rw [EndpointCall.accepted, if_neg fun h => hrefused h.2, List.nil_append]

theorem writePending_passed
    (h : writePending (endpoint.traced sink) direction madeProgress (s, log) = ⟨result, after, progress, s', log'⟩) :
    Passed source sink direction after log log' := by
  rw [writePending] at h
  split at h
  · cases h
    exact .refl _ _ _ _
  rename_i offered hreadable
  obtain ⟨hv, rfl⟩ := byteRingReadable_eq_ok hreadable
  split at h
  · cases h
    exact .refl _ _ _ _
  generalize hoffered : direction.ring.contents.take (contiguous direction.ring) = offered at h
  rcases hw : endpoint.write offered s with ⟨answer, written, s''⟩
  simp only [PumpEndpoint.traced, hw] at h
  rcases answer with _ | status
  · cases h
    exact .write_refused hne hv (by simp)
  dsimp only at h
  split at h
  · rename_i hblock
    cases h
    exact .write_refused hne hv (by simp [hblock])
  split_ifs at h with hok hcount
  · cases h
    exact .write_refused hne hv (by simp [hok])
  · cases h
    refine Passed.write hne hv rfl ?_
    -- the sink claims nothing, or more than it was offered
    rw [EndpointCall.accepted]
    rcases hcount with hzero | hmore
    · simp [hzero]
    · rw [if_neg fun h => absurd h.2.2 (Nat.not_le.mpr hmore), List.nil_append]
  · have hle : written ≤ offered.length := Nat.le_of_not_lt fun h => hcount (.inr h)
    obtain ⟨ring, hconsume, hvalid, hcontents⟩ := byteRingConsume_contents hv (hoffered ▸ hle)
    rw [hconsume] at h
    cases h
    refine Passed.write hne hvalid rfl ?_
    have hfront : offered.take written = direction.ring.contents.take written := by
      rw [← hoffered] at hle ⊢
      rw [List.take_take, Nat.min_eq_left]
      rw [List.length_take] at hle
      exact Nat.le_trans hle (Nat.min_le_left _ _)
    rw [EndpointCall.accepted, if_pos ⟨rfl, by rw [not_not.mp hok], hle⟩, hfront, hcontents,
      List.take_append_drop]

/-- A refused read may have scribbled over the writable region, not over the contents. -/
theorem Passed.read_refused {capacity : ℕ} {data region : Octets}
    (hopen : direction.sourceClosed = false) (hvalid : direction.ring.Valid)
    (hregion : region.length ≤ writableLength direction.ring)
    (hrefused : ¬ (status = some .ok ∧ data.length ≤ capacity)) :
    Passed source sink direction { direction with ring := direction.ring.stored region } log
      (log ++ [.read source capacity status data]) := by
  obtain ⟨hstored, hcontents, -⟩ := contents_stored hvalid hregion
  refine Passed.read hne hopen hstored ?_ ?_
  · rw [hopen]
    refine iff_of_false (by simp) fun h => hrefused ⟨h.1, ?_⟩
    rw [h.2]
    exact Nat.zero_le _
  · rw [EndpointCall.taken, if_neg fun h => hrefused h.2, List.append_nil]
    exact hcontents.symm

theorem readAvailable_passed
    (h : readAvailable (endpoint.traced source) direction madeProgress (s, log) = ⟨result, after, progress, s', log'⟩) :
    Passed source sink direction after log log' := by
  rw [readAvailable] at h
  split at h
  · cases h
    exact .refl _ _ _ _
  rename_i hopen
  rw [Bool.not_eq_true] at hopen
  split at h
  · cases h
    exact .refl _ _ _ _
  rename_i capacity hwritable
  obtain ⟨hv, rfl⟩ := byteRingWritable_eq_ok hwritable
  split_ifs at h
  · cases h
    exact .refl _ _ _ _
  · cases h
    exact .refl _ _ _ _
  rcases hr : endpoint.read (writableLength direction.ring) s with ⟨answer, data, extra, s''⟩
  simp only [PumpEndpoint.traced, hr] at h
  have hregion : ((data ++ extra).take (writableLength direction.ring)).length
      ≤ writableLength direction.ring := List.length_take_le _ _
  rcases answer with _ | status
  · cases h
    exact .read_refused hne hopen hv hregion (by simp)
  dsimp only at h
  split at h
  · rename_i hblock
    cases h
    exact .read_refused hne hopen hv hregion (by simp [hblock])
  split_ifs at h with hok hmore hnone
  · cases h
    exact .read_refused hne hopen hv hregion (by simp [hok])
  · cases h
    exact .read_refused hne hopen hv hregion fun h => absurd h.2 (Nat.not_le.mpr hmore)
  · -- an empty answer closes the source
    cases h
    obtain rfl := List.eq_nil_of_length_eq_zero hnone
    obtain ⟨hstored, hcontents, -⟩ := contents_stored hv hregion
    refine Passed.read hne hopen hstored (by simp [not_not.mp hok]) ?_
    rw [EndpointCall.taken, ite_self, List.append_nil]
    exact hcontents.symm
  · have hle := Nat.le_of_not_lt hmore
    rw [List.take_append, List.take_of_length_le hle] at hregion h
    obtain ⟨ring, hcommit, hvalid, hcontents⟩ := byteRingCommit_contents hv hregion
    rw [hcommit] at h
    cases h
    refine Passed.read hne hopen hvalid ?_ ?_
    · rw [hopen]
      refine iff_of_false (by simp) fun h => hnone ?_
      rw [h.2]
      rfl
    · rw [EndpointCall.taken, if_pos ⟨rfl, by rw [not_not.mp hok], hle⟩, hcontents]

theorem processDirection_passed {other : PumpEndpoint σ}
    (h : processDirection (endpoint.traced source) (other.traced sink) direction madeProgress (s, log) = ⟨result, after, progress, s', log'⟩) :
    Passed source sink direction after log log' := by
  rw [processDirection] at h
  rcases hwrite : writePending (other.traced sink) direction madeProgress (s, log)
    with ⟨status, between, moved, s₁, log₁⟩
  rw [hwrite] at h
  split at h
  · cases h
    exact writePending_passed hne hwrite
  · exact (writePending_passed hne hwrite).trans (readAvailable_passed hne h)

end Direction

/-! ### Runs -/

/-- A public call on a pump; every step and batch brings its own policy. -/
inductive PumpCall
  | step (policy : BytePumpPolicy)
  | batch (policy : BytePumpPolicy)
  | cancel
  | reset
  deriving DecidableEq

section Run

variable {σ : Type} (usb tls : PumpEndpoint σ)

/-- A call, with the endpoint calls since the last reset. -/
def pumpCall (call : PumpCall) (run : BytePump × σ × List EndpointCall) :
    BytePump × σ × List EndpointCall :=
  match call with
  | .step policy =>
    let step := bytePumpStepWithPolicy (usb.traced .usb) (tls.traced .tls) policy run.1 run.2
    (step.pump, step.world)
  | .batch policy =>
    let batch := bytePumpBatchWithPolicy (usb.traced .usb) (tls.traced .tls) policy run.1 run.2
    (batch.pump, batch.world)
  | .cancel => (bytePumpCancel run.1, run.2)
  | .reset => (bytePumpReset run.1, run.2.1, [])

def pumpCalls (calls : List PumpCall) (run : BytePump × σ × List EndpointCall) :
    BytePump × σ × List EndpointCall :=
  calls.foldl (fun run call => pumpCall usb tls call run) run

/-- What holds between the public calls. -/
structure Conserves (pump : BytePump) (log : List EndpointCall) : Prop where
  idle : pump.initialized = false → pump = .zero ∧ log = []
  valid : pump.initialized = true → pump.usbToTls.Valid ∧ pump.tlsToUsb.Valid
  carries : pump.initialized = true → pump.cancelled = false →
    Carries .usb .tls pump.usbToTls pump.usbSourceClosed log
      ∧ Carries .tls .usb pump.tlsToUsb pump.tlsSourceClosed log
  quiet : ∀ side, QuietAfterClose side log

variable {usb tls} {pump : BytePump} {s : σ} {log : List EndpointCall}

/-- A running pump is what its two directions say. -/
theorem Conserves.of_carries (hinit : pump.initialized = true)
    (husb : Carries .usb .tls pump.usbToTls pump.usbSourceClosed log)
    (htls : Carries .tls .usb pump.tlsToUsb pump.tlsSourceClosed log) : Conserves pump log where
  idle h := absurd (hinit.symm.trans h) (by simp)
  valid _ := ⟨husb.valid, htls.valid⟩
  carries _ _ := ⟨husb, htls⟩
  quiet side := by
    cases side with
    | usb => exact husb.quiet
    | tls => exact htls.quiet

theorem Carries.nil {source sink : PumpSide} {ring : ByteRing} (hvalid : ring.Valid)
    (hempty : ring.contents = []) : Carries source sink ring false [] where
  valid := hvalid
  balance := hempty.symm
  closed_iff := by simp
  quiet := List.Pairwise.nil

theorem Conserves.init (overlap : Bool) (usbToTlsStorage tlsToUsbStorage : Buffer) :
    Conserves (bytePumpInit overlap usbToTlsStorage tlsToUsbStorage) [] := by
  rw [bytePumpInit]
  split
  · exact ⟨fun _ => ⟨rfl, rfl⟩, fun h => absurd h (by simp [BytePump.zero]),
      fun h => absurd h (by simp [BytePump.zero]), fun _ => List.Pairwise.nil⟩
  · rename_i hinit
    simp only [Bool.or_eq_true, Bool.not_eq_true', not_or, Bool.not_eq_false] at hinit
    obtain ⟨husb, husbEmpty⟩ := byteRingInit_valid hinit.1.1
    obtain ⟨htls, htlsEmpty⟩ := byteRingInit_valid hinit.1.2
    exact .of_carries rfl (.nil husb husbEmpty) (.nil htls htlsEmpty)

theorem Conserves.reset (h : Conserves pump log) : Conserves (bytePumpReset pump) [] := by
  rw [bytePumpReset]
  split
  · rename_i hinit
    obtain ⟨husb, htls⟩ := h.valid hinit
    obtain ⟨husb, husbEmpty⟩ := byteRingReset_valid husb
    obtain ⟨htls, htlsEmpty⟩ := byteRingReset_valid htls
    exact .of_carries hinit (.nil husb husbEmpty) (.nil htls htlsEmpty)
  · rename_i hinit
    rw [Bool.not_eq_true] at hinit
    exact (h.idle hinit).2 ▸ h

theorem Conserves.cancel (h : Conserves pump log) : Conserves (bytePumpCancel pump) log := by
  rw [bytePumpCancel]
  split
  · rename_i hinit
    obtain ⟨husb, htls⟩ := h.valid hinit
    exact ⟨fun hidle => absurd (hinit.symm.trans hidle) (by simp),
      fun _ => ⟨(byteRingReset_valid husb).1, (byteRingReset_valid htls).1⟩,
      fun _ hcancelled => absurd hcancelled (by simp), h.quiet⟩
  · exact h

theorem Conserves.step {policy : BytePumpPolicy} {step : Stepped (σ × List EndpointCall)}
    (h : Conserves pump log)
    (hstep : bytePumpStepWithPolicy (usb.traced .usb) (tls.traced .tls) policy pump (s, log) = step) :
    Conserves step.pump step.world.2 := by
  rw [bytePumpStepWithPolicy] at hstep
  split at hstep
  · cases hstep
    exact h
  rename_i hstate
  simp only [Bool.or_eq_true, Bool.not_eq_true', not_or, Bool.not_eq_false,
    Bool.not_eq_true] at hstate
  obtain ⟨⟨hinit, hcancelled⟩, -⟩ := hstate
  split at hstep
  · cases hstep
    exact h
  obtain ⟨husb, htls⟩ := h.carries hinit hcancelled
  rcases hfirst : processDirection (usb.traced .usb) (tls.traced .tls) (pump.usbToTlsDirection policy)
    false (s, log) with ⟨status, direction, madeProgress, s', log'⟩
  have hpassed := processDirection_passed (by simp) hfirst
  have husb' := hpassed.own husb
  have htls' := hpassed.other _ _ htls
  rw [hfirst] at hstep
  dsimp only at hstep
  split at hstep
  · cases hstep
    exact .of_carries hinit husb' htls'
  -- the second direction starts from the log the first one left
  rcases hsecond : processDirection (tls.traced .tls) (usb.traced .usb)
    ((pump.setUsbToTls direction).tlsToUsbDirection policy) madeProgress (s', log')
    with ⟨status', direction', madeProgress', s'', log''⟩
  have hpassed' := processDirection_passed (by simp) hsecond
  have husb'' := hpassed'.other _ _ husb'
  have htls'' := hpassed'.own htls'
  rw [hsecond] at hstep
  dsimp only at hstep
  split at hstep
  · cases hstep
    exact .of_carries hinit husb'' htls''
  · cases hstep
    exact .of_carries hinit husb'' htls''

theorem Conserves.batchLoop {forced left : ℕ} {policy : BytePumpPolicy}
    {batch : Batched (σ × List EndpointCall)} (h : Conserves batch.pump batch.world.2) :
    let after := batchLoop (usb.traced .usb) (tls.traced .tls) forced left policy batch
    Conserves after.pump after.world.2 := by
  induction left generalizing policy batch with
  | zero => exact h
  | succ left ih =>
    rw [Pbns.batchLoop]
    dsimp only
    split
    · exact h.step rfl
    split
    · exact h.step rfl
    · exact ih (h.step rfl)

theorem Conserves.batch (h : Conserves pump log) (policy : BytePumpPolicy) :
    let batch := bytePumpBatchWithPolicy (usb.traced .usb) (tls.traced .tls) policy pump (s, log)
    Conserves batch.pump batch.world.2 := by
  rw [bytePumpBatchWithPolicy]
  split
  · exact h
  · exact Conserves.batchLoop h

variable {run : BytePump × σ × List EndpointCall}

theorem Conserves.calls (calls : List PumpCall) (h : Conserves run.1 run.2.2) :
    Conserves (pumpCalls usb tls calls run).1 (pumpCalls usb tls calls run).2.2 := by
  induction calls generalizing run with
  | nil => exact h
  | cons call calls ih =>
    refine ih ?_
    cases call with
    | step policy => exact h.step rfl
    | batch policy => exact h.batch policy
    | cancel => exact h.cancel
    | reset => exact h.reset

/-- A pump that failed or was cancelled. -/
def BytePump.Stopped (pump : BytePump) : Prop := pump.failed = true ∨ pump.cancelled = true

theorem BytePump.Stopped.state (h : pump.Stopped) :
    (!pump.initialized || pump.cancelled || pump.failed) = true := by
  rcases h with h | h <;> simp [h]

/-- A stopped pump stays stopped and calls no endpoint. -/
theorem pumpCall_stopped {call : PumpCall} (hcall : call ≠ .reset) (h : run.1.Stopped) :
    (pumpCall usb tls call run).1.Stopped ∧ (pumpCall usb tls call run).2 = run.2 := by
  cases call with
  | step policy =>
    simp only [pumpCall, bytePumpStepWithPolicy, if_pos h.state]
    exact ⟨h, trivial⟩
  | batch policy =>
    simp only [pumpCall, bytePumpBatchWithPolicy, if_pos h.state]
    exact ⟨h, trivial⟩
  | cancel =>
    refine ⟨?_, rfl⟩
    simp only [pumpCall, bytePumpCancel]
    split
    · exact .inr rfl
    · exact h
  | reset => exact absurd rfl hcall

theorem pumpCalls_stopped (calls : List PumpCall) (hcalls : PumpCall.reset ∉ calls)
    (h : run.1.Stopped) :
    (pumpCalls usb tls calls run).2 = run.2 := by
  induction calls generalizing run with
  | nil => rfl
  | cons call calls ih =>
    rw [List.mem_cons, not_or] at hcalls
    have hcall : (pumpCall usb tls call run).1.Stopped
        ∧ (pumpCall usb tls call run).2 = run.2 := pumpCall_stopped (Ne.symm hcalls.1) h
    exact (ih hcalls.2 hcall.1).trans hcall.2

/-- A pump moves both streams unchanged.  After any calls, in each direction: what the sink
accepted and then what the ring holds is what the source gave, unless the pump was cancelled; a
closed source is not read again; a failed or cancelled pump calls no endpoint before a reset;
and a complete pump has seen both sources close and has handed everything on. -/
theorem byte_pump_conserves (usb tls : PumpEndpoint σ) (overlap : Bool)
    (usbToTlsStorage tlsToUsbStorage : Buffer) (s : σ) (calls : List PumpCall) :
    let run := pumpCalls usb tls calls
      (bytePumpInit overlap usbToTlsStorage tlsToUsbStorage, s, [])
    let pump := run.1
    let log := run.2.2
    (pump.cancelled = false →
      bytesRead .usb log = bytesWritten .tls log ++ pump.usbToTls.contents
        ∧ bytesRead .tls log = bytesWritten .usb log ++ pump.tlsToUsb.contents)
    ∧ (∀ side, QuietAfterClose side log)
    ∧ (pump.failed = true ∨ pump.cancelled = true →
      ∀ more, PumpCall.reset ∉ more → (pumpCalls usb tls more run).2 = run.2)
    ∧ (bytePumpIsComplete pump = true →
      (∀ side, ∃ call ∈ log, call.Closes side)
        ∧ bytesWritten .tls log = bytesRead .usb log
        ∧ bytesWritten .usb log = bytesRead .tls log) := by
  intro run pump log
  have h : Conserves pump log := Conserves.calls calls (Conserves.init _ _ _)
  refine ⟨?_, h.quiet, fun hstopped more hmore => pumpCalls_stopped more hmore hstopped, ?_⟩
  · intro hcancelled
    by_cases hinit : pump.initialized = true
    · obtain ⟨husb, htls⟩ := h.carries hinit hcancelled
      exact ⟨husb.balance, htls.balance⟩
    · -- a pump that was never set up has seen nothing
      rw [Bool.not_eq_true] at hinit
      obtain ⟨hzero, hlog⟩ := h.idle hinit
      rw [hzero, hlog]
      exact ⟨rfl, rfl⟩
  · intro hcomplete
    simp only [bytePumpIsComplete, Bool.and_eq_true, Bool.not_eq_true', decide_eq_true_eq]
      at hcomplete
    obtain ⟨⟨⟨⟨⟨⟨hinit, hcancelled⟩, -⟩, husbClosed⟩, htlsClosed⟩, husbSize⟩, htlsSize⟩ := hcomplete
    obtain ⟨husb, htls⟩ := h.carries hinit hcancelled
    rw [byteRingSize_eq husb.valid] at husbSize
    rw [byteRingSize_eq htls.valid] at htlsSize
    refine ⟨?_, ?_, ?_⟩
    · intro side
      cases side with
      | usb => exact husb.closed_iff.mp husbClosed
      | tls => exact htls.closed_iff.mp htlsClosed
    · rw [husb.balance, List.eq_nil_of_length_eq_zero husbSize, List.append_nil]
    · rw [htls.balance, List.eq_nil_of_length_eq_zero htlsSize, List.append_nil]

end Run

end Pbns
