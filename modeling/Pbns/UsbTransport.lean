/-
The USB bulk transport of the firmware (`src/uefi/Library/PbnsUsbTransportLib`).

A bulk transfer, the reset, the connection line and the clock are operations on the state of
the world outside; a transfer may answer with any status, any length and any contents of the
memory it was given.  `Machine` holds the transport, the world and the log of what the
transport did there.  Pointers are never null, and `size_t` has 64 bits.

* `receiveRequestSize_spec` — what is asked of the IN endpoint is whole packets that fit;
* `transportReceive_stream` — what was staged and what a call was delivered is what it hands
  out followed by what it leaves staged;
* `transportSend_accepted` — a send that succeeds has had its octets accepted, in order;
* `usb_stream` — the transport over whole runs of calls.
-/
import Pbns.FrameTypes

namespace Pbns.Usb

open Octets

/-! ### The transport and the world outside -/

/-- `PBNS_USB_TRANSFER_MAX`, which is also `PBNS_USB_RECEIVE_STAGING_MAX`. -/
def transferMax : ℕ := 16384

/-- `PBNS_USB_RECEIVE_CONSECUTIVE_ZLP_MAX` -/
def receiveConsecutiveZlpMax : ℕ := 4

def sizeMax : ℕ := 2 ^ 64 - 1

/-- `PBNS_USB_TRANSFER_STALL` -/
def transferStall : BitVec 32 := 0x01#32

/-- The memory of `transmit_buffer` and of `receive_staging`. -/
abbrev Block := OctetArray transferMax

def Block.zero : Block := ⟨List.replicate transferMax 0#8, List.length_replicate⟩

/-- `memcpy(block + offset, bytes, length)` -/
def Block.write (block : Block) (offset : ℕ) (bytes : Octets) : Block :=
  ⟨(block.toList.take offset ++ bytes ++ block.toList.drop (offset + bytes.length)).take transferMax,
    by simp [List.Vector.toList_length]; omega⟩

/-- `wipe_bytes(block + offset, length)` -/
def Block.wipe (block : Block) (offset length : ℕ) : Block :=
  block.write offset (List.replicate length 0#8)

/-- `pbns_usb_transport` without what only the operations see. -/
structure UsbTransport where
  maxPacketIn : BitVec 16
  isOpen : Bool
  transmitBuffer : Block
  receiveStaging : Block
  receiveOffset : ℕ
  receiveLength : ℕ

/-- What `bulk` answers: the status, the USB status, the length it reports and the memory. -/
structure Transfer where
  status : Status
  usbStatus : BitVec 32
  length : ℕ
  buffer : Block

inductive Endpoint
  | bulkIn
  | bulkOut
  deriving DecidableEq

/-- `pbns_usb_io_ops`; `bulk` is given the memory, the length asked for and the timeout. -/
structure UsbIo (σ : Type) where
  bulk : Endpoint → Block → ℕ → BitVec 32 → σ → Transfer × σ
  reset : σ → Status × σ
  setConnected : Bool → σ → Status × σ
  nowMs : σ → Status × BitVec 64 × σ

/-- What the transport does to the world outside it: `delivered` are the octets an IN transfer
reports, `accepted` those an OUT transfer does. -/
inductive Event
  | clock (status : Status) (nowMs : BitVec 64)
  | bulkIn (requested : ℕ) (timeoutMs : BitVec 32) (delivered : Octets)
  | bulkOut (requested : ℕ) (timeoutMs : BitVec 32) (accepted : Octets)
  | connected (on : Bool)
  | reset
  deriving DecidableEq

structure Machine (σ : Type) where
  transport : UsbTransport
  world : σ
  log : List Event

/-- `clear_receive_staging` -/
def clearReceiveStaging (t : UsbTransport) : UsbTransport :=
  { t with receiveStaging := Block.zero, receiveOffset := 0, receiveLength := 0 }

section Operations

variable {σ : Type} (io : UsbIo σ)

def setConnected (on : Bool) (m : Machine σ) : Status × Machine σ :=
  let answer := io.setConnected on m.world
  (answer.1, { m with world := answer.2, log := m.log ++ [.connected on] })

/-- `reset`, whose status nobody looks at. -/
def resetDevice (m : Machine σ) : Machine σ :=
  { m with world := (io.reset m.world).2, log := m.log ++ [.reset] }

def readClock (m : Machine σ) : Status × BitVec 64 × Machine σ :=
  let answer := io.nowMs m.world
  (answer.1, answer.2.1, { m with world := answer.2.2, log := m.log ++ [.clock answer.1 answer.2.1] })

/-- `transport_open` -/
def transportOpen (m : Machine σ) : Status × Machine σ :=
  if m.transport.isOpen then (.errBusy, m)
  else
    match setConnected io true m with
    | (.ok, m) => (.ok, { m with transport := { clearReceiveStaging m.transport with isOpen := true } })
    | (status, m) => (status, resetDevice io m)

/-- `transport_close` -/
def transportClose (m : Machine σ) : Status × Machine σ :=
  let (status, m) :=
    if m.transport.isOpen then
      match setConnected io false m with
      | (.ok, m) => (.ok, m)
      | (status, m) => (status, resetDevice io m)
    else (.ok, m)
  let t := { m.transport with isOpen := false, transmitBuffer := Block.zero }
  (status, { m with transport := clearReceiveStaging t })

/-! ### Deadlines -/

structure TransferDeadline where
  deadlineMs : BitVec 64
  lastMs : BitVec 64

/-- The end of a call that begins at `now`; the clock ends at `UINT64_MAX`. -/
def deadlineAt (now : BitVec 64) (timeoutMs : BitVec 32) : BitVec 64 :=
  if 2 ^ 64 - 1 - now.toNat < timeoutMs.toNat then BitVec.allOnes 64
  else now + timeoutMs.zeroExtend 64

/-- `deadline_init` -/
def deadlineInit (timeoutMs : BitVec 32) (m : Machine σ) :
    Except Status TransferDeadline × Machine σ :=
  if timeoutMs = 0#32 then (.error .errArgument, m)
  else
    match readClock io m with
    | (.ok, now, m) => (.ok ⟨deadlineAt now timeoutMs, now⟩, m)
    | (status, _, m) => (.error status, m)

/-- `deadline_remaining`: the time left and the deadline with the reading it was made at. -/
def deadlineRemaining (deadline : TransferDeadline) (m : Machine σ) :
    Except Status (BitVec 32 × TransferDeadline) × Machine σ :=
  match readClock io m with
  | (.ok, now, m) =>
    if now < deadline.lastMs then (.error .errTransport, m)
    else if deadline.deadlineMs ≤ now then (.error .errTimeout, m)
    else
      let remaining := deadline.deadlineMs - now
      (.ok (if 2 ^ 32 - 1 < remaining.toNat then BitVec.allOnes 32 else remaining.truncate 32,
        { deadline with lastMs := now }), m)
  | (status, _, m) => (.error status, m)

/-! ### Transfers -/

/-- `transfer_result` -/
def transferResult (transfer : Transfer) (m : Machine σ) : Status × Machine σ :=
  if transfer.usbStatus &&& transferStall ≠ 0#32 then
    let m := resetDevice io m
    (.errTransport, { m with transport := clearReceiveStaging m.transport })
  else if transfer.usbStatus ≠ 0#32 ∧ transfer.status = .ok then
    (.errTransport, { m with transport := clearReceiveStaging m.transport })
  else if transfer.status ≠ .ok then
    (transfer.status, { m with transport := clearReceiveStaging m.transport })
  else (.ok, m)

/-- The copy, the bulk OUT transfer and the wipe in `transport_send`. -/
def bulkOut (chunk : Octets) (remainingMs : BitVec 32) (m : Machine σ) : Transfer × Machine σ :=
  let buffer := m.transport.transmitBuffer.write 0 chunk
  let answer := io.bulk .bulkOut buffer chunk.length remainingMs m.world
  (answer.1, { m with
    transport := { m.transport with transmitBuffer := answer.1.buffer.wipe 0 chunk.length }
    world := answer.2
    log := m.log ++ [.bulkOut chunk.length remainingMs (buffer.toList.take answer.1.length)] })

/-- One turn of the loop of `transport_send`: the length the device accepted of what is left. -/
def sendTurn (deadline : TransferDeadline) (rest : Octets) (m : Machine σ) :
    Except Status (ℕ × TransferDeadline) × Machine σ :=
  match deadlineRemaining io deadline m with
  | (.error status, m) => (.error status, m)
  | (.ok (remainingMs, deadline), m) =>
    let (transfer, m) := bulkOut io (rest.take transferMax) remainingMs m
    match transferResult io transfer m with
    | (.ok, m) => (.ok (transfer.length, deadline), m)
    | (status, m) => (.error status, m)

/-- The loop of `transport_send`, with the octets not yet accepted. -/
def sendLoop (deadline : TransferDeadline) (rest : Octets) (m : Machine σ) : Status × Machine σ :=
  if rest = [] then (.ok, m)
  else
    match sendTurn io deadline rest m with
    | (.error status, m) => (status, m)
    | (.ok (length, deadline), m) =>
      if length = 0 ∨ (rest.take transferMax).length < length then (.errIo, m)
      else sendLoop deadline (rest.drop length) m
  termination_by rest.length
  decreasing_by
    rename_i h
    simp only [List.length_take] at h
    simp only [List.length_drop]
    omega

/-- `transport_send` -/
def transportSend (bytes : Octets) (timeoutMs : BitVec 32) (m : Machine σ) : Status × Machine σ :=
  if m.transport.isOpen = false then (.errState, m)
  else if bytes = [] then (.ok, m)
  else
    match deadlineInit io timeoutMs m with
    | (.error status, m) => (status, m)
    | (.ok deadline, m) => sendLoop io deadline bytes m

/-- `receive_from_staging`: what goes into the caller's memory. -/
def receiveFromStaging (capacity : ℕ) (t : UsbTransport) : Octets × UsbTransport :=
  let available := t.receiveLength - t.receiveOffset
  let length := if capacity < available then capacity else available
  let bytes := (t.receiveStaging.toList.drop t.receiveOffset).take length
  let receiveStaging := t.receiveStaging.wipe t.receiveOffset length
  let receiveOffset := t.receiveOffset + length
  if receiveOffset = t.receiveLength then
    (bytes, { t with receiveStaging := receiveStaging, receiveOffset := 0, receiveLength := 0 })
  else (bytes, { t with receiveStaging := receiveStaging, receiveOffset := receiveOffset })

/-- The padding to whole packets in `receive_request_size`. -/
def padToPackets (length packetSize : ℕ) : Option ℕ :=
  let remainder := length % packetSize
  if remainder = 0 then some length
  else
    let padding := packetSize - remainder
    if sizeMax - padding < length then none else some (length + padding)

/-- `receive_request_size` -/
def receiveRequestSize (maxPacketIn : BitVec 16) (capacity : ℕ) : Option ℕ :=
  if maxPacketIn = 0#16 then none
  else
    let packetSize := maxPacketIn.toNat
    let maximum := transferMax - transferMax % packetSize
    if maximum = 0 then none
    else
      match padToPackets (if capacity < maximum then capacity else maximum) packetSize with
      | none => none
      | some length =>
        let requested := if length ≤ maximum then length else maximum
        if requested ≠ 0 then some requested else none

/-- The bulk IN transfer of `transport_receive`, into the staging memory. -/
def bulkIn (requested : ℕ) (remainingMs : BitVec 32) (m : Machine σ) : Transfer × Machine σ :=
  let answer := io.bulk .bulkIn m.transport.receiveStaging requested remainingMs m.world
  (answer.1, { m with
    transport := { m.transport with receiveStaging := answer.1.buffer }
    world := answer.2
    log := m.log ++ [.bulkIn requested remainingMs (answer.1.buffer.toList.take answer.1.length)] })

/-- What one turn of the loop of `transport_receive` makes of a transfer without an error. -/
def takeDelivered (capacity requested length : ℕ) (deadline : TransferDeadline) (m : Machine σ) :
    Except Status (Option Octets × TransferDeadline) × Machine σ :=
  if requested < length then
    (.error .errIo, { m with transport := clearReceiveStaging m.transport })
  else if length ≠ 0 then
    let taken := receiveFromStaging capacity { m.transport with receiveOffset := 0, receiveLength := length }
    (.ok (some taken.1, deadline), { m with transport := taken.2 })
  else (.ok (none, deadline), m)

/-- One turn of the loop of `transport_receive`; no octets is a packet of length zero. -/
def receiveTurn (capacity : ℕ) (deadline : TransferDeadline) (m : Machine σ) :
    Except Status (Option Octets × TransferDeadline) × Machine σ :=
  match deadlineRemaining io deadline m with
  | (.error status, m) => (.error status, m)
  | (.ok (remainingMs, deadline), m) =>
    match receiveRequestSize m.transport.maxPacketIn capacity with
    | none => (.error .errState, m)
    | some requested =>
      let (transfer, m) := bulkIn io requested remainingMs m
      match transferResult io transfer m with
      | (.ok, m) => takeDelivered capacity requested transfer.length deadline m
      | (status, m) => (.error status, m)

/-- The loop of `transport_receive`, with the packets of length zero it still puts up with. -/
def receiveLoop (capacity : ℕ) : ℕ → TransferDeadline → Machine σ → Except Status Octets × Machine σ
  | zlps, deadline, m =>
    match receiveTurn io capacity deadline m with
    | (.error status, m) => (.error status, m)
    | (.ok (some bytes, _), m) => (.ok bytes, m)
    | (.ok (none, deadline), m) =>
      match zlps with
      | 0 => (.error .errIo, m)
      | zlps + 1 => receiveLoop capacity zlps deadline m

/-- `transport_receive` into a buffer of length `bufferLen`. -/
def transportReceive (bufferLen capacity : ℕ) (timeoutMs : BitVec 32) (m : Machine σ) :
    Except Status Octets × Machine σ :=
  if m.transport.isOpen = false then (.error .errState, m)
  else if bufferLen ≠ 0 ∨ capacity = 0 ∨ timeoutMs = 0#32 then (.error .errArgument, m)
  else if m.transport.receiveOffset < m.transport.receiveLength then
    let taken := receiveFromStaging capacity m.transport
    (.ok taken.1, { m with transport := taken.2 })
  else
    match deadlineInit io timeoutMs m with
    | (.error status, m) => (.error status, m)
    | (.ok deadline, m) => receiveLoop io capacity receiveConsecutiveZlpMax deadline m

/-! ### Runs of calls -/

/-- A call of the transport between open and close. -/
inductive Call
  | send (bytes : Octets) (timeoutMs : BitVec 32)
  | receive (bufferLen capacity : ℕ) (timeoutMs : BitVec 32)

def Call.timeoutMs : Call → BitVec 32
  | .send _ timeoutMs => timeoutMs
  | .receive _ _ timeoutMs => timeoutMs

/-- A call, with the octets it hands out. -/
def usbCall : Call → Machine σ → Except Status Octets × Machine σ
  | .send bytes timeoutMs, m =>
    match transportSend io bytes timeoutMs m with
    | (.ok, m) => (.ok [], m)
    | (status, m) => (.error status, m)
  | .receive bufferLen capacity timeoutMs, m => transportReceive io bufferLen capacity timeoutMs m

/-- Calls one after another up to the first that fails: all they hand out, and the machine
after the last that succeeds. -/
def usbCalls : List Call → Machine σ → Octets × Machine σ
  | [], m => ([], m)
  | call :: calls, m =>
    match usbCall io call m with
    | (.ok bytes, m) => (bytes ++ (usbCalls calls m).1, (usbCalls calls m).2)
    | (.error _, _) => ([], m)

end Operations

/-! ### The octets in the staging memory -/

/-- The octets delivered and not yet handed out. -/
def UsbTransport.staged (t : UsbTransport) : Octets :=
  (t.receiveStaging.toList.drop t.receiveOffset).take (t.receiveLength - t.receiveOffset)

theorem UsbTransport.staged_of_le (t : UsbTransport) (h : t.receiveLength ≤ t.receiveOffset) :
    t.staged = [] := by
  rw [staged, Nat.sub_eq_zero_of_le h, List.take_zero]

theorem Block.drop_write (block : Block) (offset : ℕ) (bytes : Octets) :
    (block.write offset bytes).toList.drop (offset + bytes.length) =
      block.toList.drop (offset + bytes.length) := by
  have hlength : block.toList.length = transferMax := block.toList_length
  by_cases h : offset + bytes.length ≤ transferMax
  · -- the written octets lie inside the block, so the cut at its end removes nothing
    have hfront : (block.toList.take offset ++ bytes).length = offset + bytes.length := by
      rw [List.length_append, List.length_take]
      omega
    change List.drop _ (List.take transferMax _) = _
    rw [List.take_of_length_le (by rw [List.length_append, hfront, List.length_drop]; omega),
      ← hfront, List.drop_left]
  · rw [List.drop_of_length_le (by rw [List.Vector.toList_length]; omega),
      List.drop_of_length_le (by omega)]

theorem Block.take_write_zero (block : Block) (bytes : Octets) {n : ℕ} (hn : n ≤ bytes.length)
    (hbytes : bytes.length ≤ transferMax) :
    (block.write 0 bytes).toList.take n = bytes.take n := by
  change List.take n (List.take transferMax ([] ++ bytes ++ _)) = _
  rw [List.take_take, Nat.min_eq_left (Nat.le_trans hn hbytes), List.nil_append,
    List.take_append_of_le_length hn]

/-- `receive_from_staging` cuts what is staged in two. -/
theorem receiveFromStaging_split (capacity : ℕ) (t : UsbTransport) :
    (receiveFromStaging capacity t).1 ++ (receiveFromStaging capacity t).2.staged = t.staged := by
  obtain ⟨n, hn, hle⟩ : ∃ n, (if capacity < t.receiveLength - t.receiveOffset then capacity
      else t.receiveLength - t.receiveOffset) = n ∧ n ≤ t.receiveLength - t.receiveOffset := by
    refine ⟨_, rfl, ?_⟩
    split <;> omega
  -- the octets behind the cut are not touched by the wipe in front of it
  have hrest : (t.receiveStaging.wipe t.receiveOffset n).toList.drop (t.receiveOffset + n) =
      t.receiveStaging.toList.drop (t.receiveOffset + n) := by
    have h := Block.drop_write t.receiveStaging t.receiveOffset (List.replicate n 0#8)
    rwa [List.length_replicate] at h
  unfold receiveFromStaging UsbTransport.staged
  dsimp only
  rw [hn]
  split
  case isTrue h =>
    have hall : t.receiveLength - t.receiveOffset = n := by omega
    rw [hall, Nat.sub_zero, List.take_zero, List.append_nil]
  case isFalse h =>
    have hleft : t.receiveLength - t.receiveOffset = n + (t.receiveLength - (t.receiveOffset + n)) := by
      omega
    dsimp only
    rw [hrest, hleft, List.take_add, List.drop_drop]

theorem receiveFromStaging_maxPacketIn (capacity : ℕ) (t : UsbTransport) :
    (receiveFromStaging capacity t).2.maxPacketIn = t.maxPacketIn := by
  unfold receiveFromStaging
  dsimp only
  split_ifs <;> rfl

/-- What a turn does with a transfer: the log stays, and the octets delivered are handed out or
staged. -/
theorem takeDelivered_cases {σ : Type} {capacity requested length : ℕ} {deadline : TransferDeadline}
    {m m' : Machine σ} {result : Except Status (Option Octets × TransferDeadline)}
    (h : takeDelivered capacity requested length deadline m = (result, m')) :
    m'.log = m.log ∧ m'.transport.maxPacketIn = m.transport.maxPacketIn ∧
      ∀ bytes next, result = .ok (bytes, next) → next = deadline ∧
        match bytes with
        | some bytes => m.transport.receiveStaging.toList.take length = bytes ++ m'.transport.staged
        | none => length = 0 ∧ m' = m := by
  rw [takeDelivered] at h
  split_ifs at h with hlong hlength
  · cases h
    exact ⟨rfl, rfl, by nofun⟩
  · cases h
    refine ⟨rfl, receiveFromStaging_maxPacketIn _ _, fun bytes next h => ?_⟩
    cases h
    exact ⟨rfl, (receiveFromStaging_split capacity
      { m.transport with receiveOffset := 0, receiveLength := length }).symm⟩
  · cases h
    refine ⟨rfl, rfl, fun bytes next h => ?_⟩
    cases h
    exact ⟨rfl, not_not.mp hlength, rfl⟩

/-! ### Whole packets -/

/-- A request that no packet of this size is cut by: whole packets, at least one, inside the
staging memory. -/
structure WholePackets (maxPacketIn : BitVec 16) (requested : ℕ) : Prop where
  pos : 0 < requested
  packets : maxPacketIn.toNat ∣ requested
  fits : requested ≤ transferMax

theorem padToPackets_dvd {length packetSize padded : ℕ} (hpos : 0 < packetSize)
    (h : padToPackets length packetSize = some padded) : packetSize ∣ padded := by
  unfold padToPackets at h
  dsimp only at h
  have hlt := Nat.mod_lt length hpos
  split_ifs at h with hzero
  · cases h
    exact Nat.dvd_of_mod_eq_zero hzero
  · cases h
    have hsum : length + (packetSize - length % packetSize) =
        packetSize * (length / packetSize) + packetSize := by
      have := Nat.div_add_mod length packetSize
      omega
    rw [hsum]
    exact Nat.dvd_add (Nat.dvd_mul_right _ _) (Nat.dvd_refl _)

theorem receiveRequestSize_spec {maxPacketIn : BitVec 16} {capacity requested : ℕ}
    (h : receiveRequestSize maxPacketIn capacity = some requested) :
    WholePackets maxPacketIn requested := by
  unfold receiveRequestSize at h
  dsimp only at h
  split at h
  · cases h
  rename_i hpacket
  split at h
  · cases h
  rename_i hmaximum
  have hpos : 0 < maxPacketIn.toNat :=
    Nat.pos_of_ne_zero fun hzero => hpacket (BitVec.eq_of_toNat_eq hzero)
  split at h
  case h_1 => cases h
  case h_2 padded hpadded =>
    split_ifs at h with hsmall hzero
    · cases h
      exact ⟨Nat.pos_of_ne_zero hzero, padToPackets_dvd hpos hpadded, by omega⟩
    · cases h
      exact ⟨Nat.pos_of_ne_zero hmaximum, Nat.dvd_sub_mod _, Nat.sub_le _ _⟩

/-! ### What a call logs -/

def Event.delivered : Event → Octets
  | .bulkIn _ _ delivered => delivered
  | _ => []

def Event.accepted : Event → Octets
  | .bulkOut _ _ accepted => accepted
  | _ => []

/-- The length asked of the IN endpoint. -/
def Event.requested : Event → Option ℕ
  | .bulkIn requested _ _ => some requested
  | _ => none

/-- The timeout passed down. -/
def Event.timeout : Event → Option (BitVec 32)
  | .bulkIn _ timeoutMs _ => some timeoutMs
  | .bulkOut _ timeoutMs _ => some timeoutMs
  | _ => none

/-- The time the clock gave. -/
def Event.reading : Event → Option (BitVec 64)
  | .clock .ok now => some now
  | _ => none

/-- Every timeout fits between the reading made just before it, which is not before `start`, and
`limit`; `last` is the reading made just before the events. -/
def Paced (start limit : BitVec 64) : Option (BitVec 64) → List Event → Prop
  | _, [] => True
  | last, e :: events =>
    (∀ timeoutMs, e.timeout = some timeoutMs →
      ∃ now, last = some now ∧ start ≤ now ∧ now.toNat + timeoutMs.toNat ≤ limit.toNat) ∧
      Paced start limit e.reading events

variable {start limit : BitVec 64} {last : Option (BitVec 64)} {events : List Event} {e : Event}
   {timeoutMs : BitVec 32} {now : BitVec 64} {deadline : TransferDeadline} {status : Status}

theorem Paced.of_none (h : Paced start limit none events) : Paced start limit last events := by
  cases events with
  | nil => trivial
  | cons e events =>
    refine ⟨fun timeoutMs ht => ?_, h.2⟩
    obtain ⟨now, hnone, -⟩ := h.1 timeoutMs ht
    cases hnone

theorem Paced.append {xs ys : List Event} (hx : Paced start limit last xs)
    (hy : Paced start limit none ys) :
    Paced start limit last (xs ++ ys) := by
  induction xs generalizing last with
  | nil => exact hy.of_none
  | cons e xs ih => exact ⟨hx.1, ih hx.2⟩

/-- Each transfer of a paced log directly follows the reading its timeout was made from. -/
theorem Paced.at_transfer {front rest : List Event}
    (h : Paced start limit last (front ++ e :: rest)) (ht : e.timeout = some timeoutMs) :
    ∃ now, (front.getLast?.elim last Event.reading) = some now ∧ start ≤ now ∧
      now.toNat + timeoutMs.toNat ≤ limit.toNat := by
  induction front generalizing last with
  | nil => exact h.1 timeoutMs ht
  | cons f front ih =>
    have := ih h.2
    cases front with
    | nil => exact this
    | cons g front => rwa [List.getLast?_cons_cons]

variable {σ : Type}

/-- From `m` to `m'` the transport logged `events`: all requests are whole packets and all
timeouts end by `limit`. -/
structure Logged (start limit : BitVec 64) (m m' : Machine σ) (events : List Event) : Prop where
  log : m'.log = m.log ++ events
  packet : m'.transport.maxPacketIn = m.transport.maxPacketIn
  paced : Paced start limit none events
  whole : ∀ e ∈ events, ∀ requested, e.requested = some requested →
    WholePackets m.transport.maxPacketIn requested

theorem Logged.refl (start limit : BitVec 64) (m : Machine σ) : Logged start limit m m [] :=
  ⟨(List.append_nil _).symm, rfl, trivial, by nofun⟩

theorem Logged.trans {m₁ m₂ m₃ : Machine σ} {xs ys : List Event} (h : Logged start limit m₁ m₂ xs)
    (h' : Logged start limit m₂ m₃ ys) :
    Logged start limit m₁ m₃ (xs ++ ys) := by
  refine ⟨by rw [h'.log, h.log, List.append_assoc], h'.packet.trans h.packet,
    h.paced.append h'.paced, fun e he requested hr => ?_⟩
  rcases List.mem_append.mp he with hx | hy
  · exact h.whole e hx requested hr
  · have := h'.whole e hy requested hr
    rwa [h.packet] at this

theorem Logged.same {m₁ m₂ m₃ : Machine σ} (h : Logged start limit m₁ m₂ events)
    (hlog : m₃.log = m₂.log) (hpacket : m₃.transport.maxPacketIn = m₂.transport.maxPacketIn) :
    Logged start limit m₁ m₃ events :=
  ⟨hlog.trans h.log, hpacket.trans h.packet, h.paced, h.whole⟩

/-! ### One turn -/

/-- The time left, cut to 32 bits, ends by the deadline. -/
theorem remaining_le {deadlineMs : BitVec 64} (h : now < deadlineMs) :
    now.toNat + (if 2 ^ 32 - 1 < (deadlineMs - now).toNat then BitVec.allOnes 32
      else (deadlineMs - now).truncate 32).toNat ≤ deadlineMs.toNat := by
  have hlt : now.toNat < deadlineMs.toNat := h
  have hsub : (deadlineMs - now).toNat = deadlineMs.toNat - now.toNat :=
    BitVec.toNat_sub_of_le (BitVec.le_of_lt h)
  split_ifs with hlong
  · rw [BitVec.toNat_allOnes]
    omega
  · have := Nat.mod_le (deadlineMs - now).toNat (2 ^ 32)
    rw [BitVec.toNat_setWidth]
    omega

theorem deadlineAt_toNat (now : BitVec 64) (timeoutMs : BitVec 32) :
    (deadlineAt now timeoutMs).toNat = min (2 ^ 64 - 1) (now.toNat + timeoutMs.toNat) := by
  have hnow := now.isLt
  unfold deadlineAt
  split_ifs with hlong
  · rw [BitVec.toNat_allOnes]
    omega
  · rw [BitVec.toNat_add, BitVec.toNat_setWidth]
    omega

variable {io : UsbIo σ} {m m' : Machine σ}

/-- `deadline_remaining` reads the clock once and leaves the transport alone. -/
theorem deadlineRemaining_cases {result : Except Status (BitVec 32 × TransferDeadline)}
    (h : deadlineRemaining io deadline m = (result, m')) (hstart : start ≤ deadline.lastMs) :
    ∃ status now, m'.transport = m.transport ∧ m'.log = m.log ++ [.clock status now] ∧
      ((∃ failure, result = .error failure ∧ failure ≠ .ok) ∨
        ∃ left, result = .ok (left, { deadline with lastMs := now }) ∧ status = .ok ∧ start ≤ now ∧
          now.toNat + left.toNat ≤ deadline.deadlineMs.toNat) := by
  rw [deadlineRemaining, readClock] at h
  obtain ⟨⟨status, now, world⟩, hclock⟩ : ∃ answer, io.nowMs m.world = answer := ⟨_, rfl⟩
  rw [hclock] at h
  refine ⟨status, now, ?_⟩
  cases status with
  | ok =>
    dsimp only at h
    by_cases hback : now < deadline.lastMs
    · rw [if_pos hback] at h
      cases h
      exact ⟨rfl, rfl, .inl ⟨_, rfl, by nofun⟩⟩
    rw [if_neg hback] at h
    by_cases hover : deadline.deadlineMs ≤ now
    · rw [if_pos hover] at h
      cases h
      exact ⟨rfl, rfl, .inl ⟨_, rfl, by nofun⟩⟩
    · rw [if_neg hover] at h
      cases h
      exact ⟨rfl, rfl, .inr ⟨_, rfl, rfl, BitVec.le_trans hstart (BitVec.not_lt.mp hback),
        remaining_le (BitVec.not_le.mp hover)⟩⟩
  | _ =>
    cases h
    exact ⟨rfl, rfl, .inl ⟨_, rfl, by nofun⟩⟩

/-- `transfer_result` resets the device at most, and changes nothing when there is no error. -/
theorem transferResult_cases {transfer : Transfer} (h : transferResult io transfer m = (status, m')) :
    m'.transport.maxPacketIn = m.transport.maxPacketIn ∧ ∃ tail, m'.log = m.log ++ tail ∧
      (tail = [] ∨ tail = [.reset]) ∧ (status = .ok → m' = m ∧ tail = []) := by
  rw [transferResult] at h
  split_ifs at h with hstall husb hstatus
  · cases h
    exact ⟨rfl, [.reset], rfl, .inr rfl, by nofun⟩
  · cases h
    exact ⟨rfl, [], (List.append_nil _).symm, .inl rfl, by nofun⟩
  · cases h
    exact ⟨rfl, [], (List.append_nil _).symm, .inl rfl, fun hok => absurd hok hstatus⟩
  · cases h
    exact ⟨rfl, [], (List.append_nil _).symm, .inl rfl, fun _ => ⟨rfl, rfl⟩⟩

theorem Logged.clock (ht : m'.transport = m.transport) (hlog : m'.log = m.log ++ [.clock status now]) :
    Logged start limit m m' [.clock status now] := by
  refine ⟨hlog, by rw [ht], ⟨by nofun, trivial⟩, fun e he requested hr => ?_⟩
  cases List.mem_singleton.mp he
  cases hr

/-- The part the two loops share: the clock, a transfer and its result, with a reset if the device
needs one. -/
theorem transferResult_logged {left : BitVec 32} {transfer : Transfer} {m₁ m₂ : Machine σ}
    (h : transferResult io transfer m₂ = (status, m')) (ht : m₁.transport = m.transport)
    (hlog : m₁.log = m.log ++ [.clock .ok now]) (hnow : start ≤ now)
    (hle : now.toNat + left.toNat ≤ limit.toNat)
    (hpacket : m₂.transport.maxPacketIn = m₁.transport.maxPacketIn) (hlog₂ : m₂.log = m₁.log ++ [e])
    (he : e.timeout = some left) (hwhole : ∀ requested, e.requested = some requested →
      WholePackets m.transport.maxPacketIn requested) :
    ∃ tail, Logged start limit m m' (.clock .ok now :: e :: tail) ∧
      tail.filterMap Event.requested = [] ∧ (status = .ok → m' = m₂ ∧ tail = []) := by
  obtain ⟨hpacket', tail, hlog', htail, hok⟩ := transferResult_cases h
  have hreset : Paced start limit e.reading tail := by
    rcases htail with rfl | rfl
    · trivial
    · exact ⟨by nofun, trivial⟩
  have hnone : tail.filterMap Event.requested = [] := by
    rcases htail with rfl | rfl <;> rfl
  refine ⟨tail, ⟨?_, by rw [hpacket', hpacket, ht], ⟨by nofun, fun timeoutMs ht => ?_, hreset⟩,
    fun f hf requested hr => ?_⟩, hnone, hok⟩
  · rw [hlog', hlog₂, hlog, List.append_assoc, List.append_assoc]
    rfl
  · cases he.symm.trans ht
    exact ⟨now, rfl, hnow, hle⟩
  · rcases List.mem_cons.mp hf with rfl | hf
    · cases hr
    rcases List.mem_cons.mp hf with rfl | hf
    · exact hwhole requested hr
    · exact absurd hr (by rw [List.filterMap_eq_nil_iff.mp hnone f hf]; nofun)

/-- One turn of the send loop: nothing is asked of the IN endpoint, what is staged stays, and
the length it returns has been accepted. -/
theorem sendTurn_spec {rest : Octets} {result : Except Status (ℕ × TransferDeadline)}
    (h : sendTurn io deadline rest m = (result, m')) (hstart : start ≤ deadline.lastMs) :
    ∃ events, Logged start deadline.deadlineMs m m' events ∧
      events.filterMap Event.requested = [] ∧
      ((∃ failure, result = .error failure ∧ failure ≠ .ok) ∨
        ∃ length next, result = .ok (length, next) ∧ next.deadlineMs = deadline.deadlineMs ∧
          start ≤ next.lastMs ∧ m'.transport.staged = m.transport.staged ∧
          (length ≤ (rest.take transferMax).length →
            events.flatMap Event.accepted = rest.take length)) := by
  rw [sendTurn] at h
  cases hclock : deadlineRemaining io deadline m with
  | mk answer m₁ =>
  rw [hclock] at h
  obtain ⟨status, now, ht, hlog, ⟨failure, rfl, hne⟩ | ⟨left, rfl, rfl, hnow, hle⟩⟩ :=
    deadlineRemaining_cases hclock hstart
  · cases h
    exact ⟨_, .clock ht hlog, rfl, .inl ⟨_, rfl, hne⟩⟩
  · dsimp only at h
    have hturn {transfer : Transfer} {status : Status} {m₂ : Machine σ}
        (h : transferResult io transfer (bulkOut io (rest.take transferMax) left m₁).2 = (status, m₂)) :=
      transferResult_logged h ht hlog hnow hle rfl rfl rfl (by nofun)
    split at h
    case h_2 hne hresult =>
      cases h
      obtain ⟨tail, hlogged, hnone, -⟩ := hturn hresult
      exact ⟨_, hlogged, hnone, .inl ⟨_, rfl, hne⟩⟩
    case h_1 hresult =>
      cases h
      obtain ⟨tail, hlogged, hnone, hok⟩ := hturn hresult
      obtain ⟨rfl, rfl⟩ := hok rfl
      refine ⟨_, hlogged, hnone, .inr ⟨_, _, rfl, rfl, hnow, by rw [← ht]; rfl, fun hlen => ?_⟩⟩
      -- the chunk fits the memory, so what the device accepts is what was left to send
      have hshort := Nat.le_trans hlen (List.length_take_le _ _)
      rw [List.flatMap_cons, List.flatMap_cons, List.flatMap_nil, List.append_nil]
      refine (Block.take_write_zero _ _ hlen (List.length_take_le _ _)).trans ?_
      rw [List.take_take, Nat.min_eq_left hshort]

/-- The send loop, by the octets not yet accepted. -/
theorem sendLoop_spec {rest : Octets} (h : sendLoop io deadline rest m = (status, m'))
    (hstart : start ≤ deadline.lastMs) :
    ∃ events, Logged start deadline.deadlineMs m m' events ∧
      events.filterMap Event.requested = [] ∧
      (status = .ok → events.flatMap Event.accepted = rest ∧
        m'.transport.staged = m.transport.staged) := by
  induction deadline, rest, m using sendLoop.induct io with
  | case1 deadline m =>
    rw [sendLoop, if_pos rfl] at h
    cases h
    exact ⟨[], .refl _ _ _, rfl, fun _ => ⟨rfl, rfl⟩⟩
  | case2 deadline rest m hnil failure m₁ hturn =>
    rw [sendLoop, if_neg hnil, hturn] at h
    cases h
    obtain ⟨events, hlogged, hnone, ⟨_, herror, hne⟩ | ⟨_, _, hok, -⟩⟩ := sendTurn_spec hturn hstart
    · cases herror
      exact ⟨events, hlogged, hnone, fun hok => absurd hok hne⟩
    · cases hok
  | case3 deadline rest m hnil length next m₁ hturn hbad =>
    rw [sendLoop, if_neg hnil, hturn] at h
    obtain ⟨events, hlogged, hnone, -⟩ := sendTurn_spec hturn hstart
    cases (if_pos hbad).symm.trans h
    exact ⟨events, hlogged, hnone, by nofun⟩
  | case4 deadline rest m hnil length next m₁ hturn hgood ih =>
    rw [sendLoop, if_neg hnil, hturn] at h
    obtain ⟨events, hlogged, hnone, ⟨_, herror, -⟩ |
      ⟨_, _, hok, hdeadline, hstart', hstaged, haccepted⟩⟩ := sendTurn_spec hturn hstart
    · cases herror
    cases hok
    obtain ⟨later, hlater, hnone', hok'⟩ := ih ((if_neg hgood).symm.trans h) hstart'
    rw [hdeadline] at hlater
    refine ⟨events ++ later, hlogged.trans hlater, ?_, fun hok => ?_⟩
    · rw [List.filterMap_append, hnone, hnone', List.append_nil]
    · obtain ⟨hrest, hkept⟩ := hok' hok
      refine ⟨?_, hkept.trans hstaged⟩
      rw [List.flatMap_append, haccepted (by omega), hrest, List.take_append_drop]

/-- One turn of the receive loop with nothing staged: at most one transfer, and what it
delivers is handed out or staged. -/
theorem receiveTurn_spec {capacity : ℕ} {result : Except Status (Option Octets × TransferDeadline)}
    (h : receiveTurn io capacity deadline m = (result, m')) (hstart : start ≤ deadline.lastMs) :
    ∃ events, Logged start deadline.deadlineMs m m' events ∧
      (events.filterMap Event.requested).length ≤ 1 ∧
      ∀ bytes next, result = .ok (bytes, next) →
        next.deadlineMs = deadline.deadlineMs ∧ start ≤ next.lastMs ∧
        match bytes with
        | some bytes => events.flatMap Event.delivered = bytes ++ m'.transport.staged
        | none => events.flatMap Event.delivered = [] ∧
          m'.transport.receiveLength = m.transport.receiveLength ∧
          m'.transport.receiveOffset = m.transport.receiveOffset := by
  rw [receiveTurn] at h
  cases hclock : deadlineRemaining io deadline m with
  | mk answer m₁ =>
  rw [hclock] at h
  obtain ⟨status, now, ht, hlog, ⟨failure, rfl, -⟩ | ⟨left, rfl, rfl, hnow, hle⟩⟩ :=
    deadlineRemaining_cases hclock hstart
  · cases h
    exact ⟨_, .clock ht hlog, Nat.zero_le _, by nofun⟩
  dsimp only at h
  split at h
  · cases h
    exact ⟨_, .clock ht hlog, Nat.zero_le _, by nofun⟩
  case h_2 requested hsize =>
    rw [ht] at hsize
    have hturn {transfer : Transfer} {status : Status} {m₂ : Machine σ}
        (h : transferResult io transfer (bulkIn io requested left m₁).2 = (status, m₂)) :=
      transferResult_logged h ht hlog hnow hle rfl rfl rfl
        (fun r hr => by cases hr; exact receiveRequestSize_spec hsize)
    have hcount {tail : List Event} (hnone : tail.filterMap Event.requested = []) :
        (requested :: tail.filterMap Event.requested).length ≤ 1 := by
      rw [hnone]
      exact Nat.le_refl _
    split at h
    case h_2 hresult =>
      cases h
      obtain ⟨tail, hlogged, hnone, -⟩ := hturn hresult
      exact ⟨_, hlogged, hcount hnone, by nofun⟩
    case h_1 hresult =>
      obtain ⟨tail, hlogged, hnone, hok⟩ := hturn hresult
      obtain ⟨rfl, rfl⟩ := hok rfl
      obtain ⟨hlog', hpacket, htaken⟩ := takeDelivered_cases h
      refine ⟨_, hlogged.same hlog' hpacket, Nat.le_refl _, fun bytes next hbytes => ?_⟩
      obtain ⟨rfl, hsplit⟩ := htaken bytes next hbytes
      refine ⟨rfl, hnow, ?_⟩
      rw [List.flatMap_cons, List.flatMap_cons, List.flatMap_nil, List.append_nil]
      cases bytes with
      | some bytes => exact hsplit
      | none =>
        obtain ⟨hzero, rfl⟩ := hsplit
        rw [← ht]
        refine ⟨?_, rfl, rfl⟩
        change List.take (bulkIn io requested left m₁).1.length _ = []
        rw [hzero, List.take_zero]

/-- The receive loop with nothing staged, by the packets of length zero it still puts up with. -/
theorem receiveLoop_spec {capacity zlps : ℕ} {result : Except Status Octets}
    (h : receiveLoop io capacity zlps deadline m = (result, m')) (hstart : start ≤ deadline.lastMs)
    (hempty : m.transport.receiveLength ≤ m.transport.receiveOffset) :
    ∃ events, Logged start deadline.deadlineMs m m' events ∧
      (events.filterMap Event.requested).length ≤ zlps + 1 ∧
      ∀ bytes, result = .ok bytes →
        events.flatMap Event.delivered = bytes ++ m'.transport.staged := by
  induction zlps using Nat.strongRecOn generalizing deadline m with
  | ind zlps ih =>
    unfold receiveLoop at h
    cases hturn : receiveTurn io capacity deadline m with
    | mk turn m₁ =>
    obtain ⟨events, hlogged, hcount, hok⟩ := receiveTurn_spec hturn hstart
    rw [hturn] at h
    rcases turn with failure | ⟨_ | bytes, next⟩
    · cases h
      exact ⟨events, hlogged, by omega, by nofun⟩
    · cases zlps with
      | zero =>
        cases h
        exact ⟨events, hlogged, hcount, by nofun⟩
      | succ zlps =>
        -- an empty packet: nothing was delivered and still nothing is staged
        obtain ⟨hdeadline, hstart', hnothing, hlength, hoffset⟩ := hok _ _ rfl
        obtain ⟨later, hlater, hcount', hok'⟩ :=
          ih zlps (Nat.lt_succ_self _) h hstart' (by rw [hlength, hoffset]; exact hempty)
        rw [hdeadline] at hlater
        refine ⟨events ++ later, hlogged.trans hlater, ?_, fun bytes hbytes => ?_⟩
        · rw [List.filterMap_append, List.length_append]
          omega
        · rw [List.flatMap_append, hnothing]
          exact hok' bytes hbytes
    · cases h
      refine ⟨events, hlogged, by omega, fun bytes' hbytes => ?_⟩
      cases hbytes
      exact (hok _ _ rfl).2.2

/-! ### Whole calls -/

theorem Event.eq_clock_of_reading (h : e.reading = some now) :
    e = .clock .ok now := by
  unfold reading at h
  split at h <;> cases h
  rfl

/-- A call that begins at the first event of its log, with the timeout it was given: each
transfer directly follows a reading of the clock, and its timeout is at most what is then left
to the deadline. -/
def Timely (timeoutMs : BitVec 32) (events : List Event) : Prop :=
  ∀ front e rest left, events = front ++ e :: rest → e.timeout = some left →
    ∃ start now, events.head? = some (.clock .ok start) ∧ front.getLast? = some (.clock .ok now) ∧
      start ≤ now ∧ now.toNat + left.toNat ≤ min (2 ^ 64 - 1) (start.toNat + timeoutMs.toNat)

theorem Paced.timely (h : Paced start (deadlineAt start timeoutMs) none events) :
    Timely timeoutMs (.clock .ok start :: events) := by
  intro front e rest left hevents ht
  cases front with
  | nil =>
    cases hevents
    cases ht
  | cons first front =>
    obtain ⟨rfl, rfl⟩ := List.cons.inj hevents
    obtain ⟨now, hreading, hle, hlimit⟩ := h.at_transfer ht
    rw [deadlineAt_toNat] at hlimit
    refine ⟨start, now, rfl, ?_, hle, hlimit⟩
    cases hlast : front.getLast? with
    | none =>
      rw [hlast] at hreading
      cases hreading
    | some f =>
      rw [hlast] at hreading
      rw [List.getLast?_cons, hlast]
      exact congrArg some (Event.eq_clock_of_reading hreading)

theorem timely_of_no_transfer (h : ∀ e ∈ events, e.timeout = none) : Timely timeoutMs events := by
  intro front e rest left hevents ht
  have hmem : e ∈ events := by
    rw [hevents]
    exact List.mem_append_right _ List.mem_cons_self
  rw [h e hmem] at ht
  cases ht

/-- What any call logs, whatever it returns. -/
structure CallLog (timeoutMs : BitVec 32) (m m' : Machine σ) (events : List Event) : Prop where
  log : m'.log = m.log ++ events
  timely : Timely timeoutMs events
  whole : ∀ requested ∈ events.filterMap Event.requested,
    WholePackets m.transport.maxPacketIn requested
  few : (events.filterMap Event.requested).length ≤ receiveConsecutiveZlpMax + 1

theorem CallLog.quiet (hlog : m'.log = m.log ++ events) (h : ∀ e ∈ events, e.timeout = none) :
    CallLog timeoutMs m m' events := by
  have hnone : events.filterMap Event.requested = [] := by
    refine List.filterMap_eq_nil_iff.mpr fun e he => ?_
    have := h e he
    cases e <;> first | rfl | cases this
  refine ⟨hlog, timely_of_no_transfer h, ?_, ?_⟩
  · rw [hnone]
    nofun
  · rw [hnone]
    exact Nat.zero_le _

theorem CallLog.same (hlog : m'.log = m.log) : CallLog timeoutMs m m' [] :=
  .quiet (hlog.trans (List.append_nil _).symm) (by nofun)

/-- A deadline begins at the reading it was made from; without one the call has an error. -/
theorem deadlineInit_cases {result : Except Status TransferDeadline}
    (h : deadlineInit io timeoutMs m = (result, m')) :
    (∃ now, result = .ok ⟨deadlineAt now timeoutMs, now⟩ ∧ m'.transport = m.transport ∧
        m'.log = m.log ++ [.clock .ok now]) ∨
      ∃ failure events, result = .error failure ∧ failure ≠ .ok ∧ CallLog timeoutMs m m' events ∧
        events.flatMap Event.delivered = [] := by
  rw [deadlineInit, readClock] at h
  split_ifs at h
  · cases h
    exact .inr ⟨_, [], rfl, by nofun, .same rfl, rfl⟩
  · obtain ⟨⟨status, now, world⟩, hclock⟩ : ∃ answer, io.nowMs m.world = answer := ⟨_, rfl⟩
    rw [hclock] at h
    cases status with
    | ok =>
      cases h
      exact .inl ⟨now, rfl, rfl, rfl⟩
    | _ =>
      cases h
      exact .inr ⟨_, [.clock _ now], rfl, by nofun, .quiet rfl (by simp [Event.timeout]), rfl⟩

/-- A loop after the reading its deadline was made from. -/
theorem Logged.call {m₁ : Machine σ} (ht : m₁.transport = m.transport)
    (hlog : m₁.log = m.log ++ [.clock .ok start])
    (h : Logged start (deadlineAt start timeoutMs) m₁ m' events)
    (hcount : (events.filterMap Event.requested).length ≤ receiveConsecutiveZlpMax + 1) :
    CallLog timeoutMs m m' (.clock .ok start :: events) := by
  refine ⟨?_, h.paced.timely, fun requested hr => ?_, hcount⟩
  · rw [h.log, hlog, List.append_assoc]
    rfl
  · obtain ⟨e, he, hrequested⟩ := List.mem_filterMap.mp hr
    rcases List.mem_cons.mp he with rfl | he
    · cases hrequested
    · have := h.whole e he requested hrequested
      rwa [ht] at this

theorem delivered_of_no_request (h : events.filterMap Event.requested = []) :
    events.flatMap Event.delivered = [] := by
  rw [List.flatMap_eq_nil_iff]
  intro e he
  have hnone := List.filterMap_eq_nil_iff.mp h e he
  cases e <;> first | rfl | cases hnone

/-- `transport_send`: the octets accepted by one that succeeds are those it was given. -/
theorem transportSend_accepted {bytes : Octets}
    (h : transportSend io bytes timeoutMs m = (status, m')) :
    ∃ events, CallLog timeoutMs m m' events ∧ events.flatMap Event.delivered = [] ∧
      (status = .ok → events.flatMap Event.accepted = bytes ∧
        m'.transport.staged = m.transport.staged) := by
  rw [transportSend] at h
  split_ifs at h with hclosed hnil
  · cases h
    exact ⟨[], .same rfl, rfl, by nofun⟩
  · cases h
    exact ⟨[], .same rfl, rfl, fun _ => ⟨hnil.symm, rfl⟩⟩
  cases hinit : deadlineInit io timeoutMs m with
  | mk answer m₁ =>
  rw [hinit] at h
  rcases deadlineInit_cases hinit with ⟨start, rfl, ht, hlog⟩ | ⟨failure, events, rfl, hne, hcall, hnone⟩
  · obtain ⟨events, hlogged, hnone, hok⟩ := sendLoop_spec h (BitVec.le_refl start)
    rw [ht] at hok
    exact ⟨_, hlogged.call ht hlog (by rw [hnone]; exact Nat.zero_le _),
      delivered_of_no_request hnone, hok⟩
  · cases h
    exact ⟨events, hcall, hnone, fun hok => absurd hok hne⟩

/-- `transport_receive`: what was staged and what the call is delivered is what it hands out
followed by what it leaves staged. -/
theorem transportReceive_stream {bufferLen capacity : ℕ} {result : Except Status Octets}
    (h : transportReceive io bufferLen capacity timeoutMs m = (result, m')) :
    ∃ events, CallLog timeoutMs m m' events ∧ ∀ bytes, result = .ok bytes →
      m.transport.staged ++ events.flatMap Event.delivered = bytes ++ m'.transport.staged := by
  rw [transportReceive] at h
  split_ifs at h with hclosed hargument hstaged
  · cases h
    exact ⟨[], .same rfl, by nofun⟩
  · cases h
    exact ⟨[], .same rfl, by nofun⟩
  · cases h
    refine ⟨[], .same rfl, fun bytes hbytes => ?_⟩
    cases hbytes
    rw [List.flatMap_nil, List.append_nil]
    exact (receiveFromStaging_split capacity m.transport).symm
  have hempty := Nat.le_of_not_lt hstaged
  rw [m.transport.staged_of_le hempty]
  cases hinit : deadlineInit io timeoutMs m with
  | mk answer m₁ =>
  rw [hinit] at h
  rcases deadlineInit_cases hinit with ⟨start, rfl, ht, hlog⟩ | ⟨failure, events, rfl, -, hcall, -⟩
  · rw [← ht] at hempty
    obtain ⟨events, hlogged, hcount, hok⟩ := receiveLoop_spec h (BitVec.le_refl start) hempty
    exact ⟨_, hlogged.call ht hlog hcount, hok⟩
  · cases h
    exact ⟨events, hcall, by nofun⟩

/-- What every call keeps of the stream, and what it logs whatever it returns. -/
theorem usbCall_spec {call : Call} {result : Except Status Octets}
    (h : usbCall io call m = (result, m')) :
    ∃ events, CallLog call.timeoutMs m m' events ∧ ∀ bytes, result = .ok bytes →
      m.transport.staged ++ events.flatMap Event.delivered = bytes ++ m'.transport.staged := by
  cases call with
  | send bytes timeoutMs =>
    cases hsend : transportSend io bytes timeoutMs m with
    | mk status m₁ =>
    obtain ⟨events, hlog, hnothing, hok⟩ := transportSend_accepted hsend
    rw [usbCall, hsend] at h
    split at h
    case h_1 heq =>
      cases heq
      cases h
      refine ⟨events, hlog, fun handed hhanded => ?_⟩
      cases hhanded
      rw [hnothing, List.append_nil]
      exact (hok rfl).2.symm
    case h_2 heq =>
      cases heq
      cases h
      exact ⟨events, hlog, by nofun⟩
  | receive bufferLen capacity timeoutMs => exact transportReceive_stream h

/-- The stream along a run of calls. -/
theorem usbCalls_stream {calls : List Call} {handed : Octets} (h : usbCalls io calls m = (handed, m')) :
    ∃ events, m'.log = m.log ++ events ∧
      m.transport.staged ++ events.flatMap Event.delivered = handed ++ m'.transport.staged := by
  induction calls generalizing m handed with
  | nil =>
    cases h
    exact ⟨[], (List.append_nil _).symm, List.append_nil _⟩
  | cons call calls ih =>
    rw [usbCalls] at h
    cases hcall : usbCall io call m with
    | mk result m₁ =>
    rw [hcall] at h
    cases result with
    | error failure =>
      cases h
      exact ⟨[], (List.append_nil _).symm, List.append_nil _⟩
    | ok bytes =>
      cases h
      obtain ⟨events, hlog, hok⟩ := usbCall_spec hcall
      obtain ⟨later, hlater, hrest⟩ := ih rfl
      refine ⟨events ++ later, ?_, ?_⟩
      · rw [hlater, hlog.log, List.append_assoc]
      · rw [List.flatMap_append, ← List.append_assoc, hok bytes rfl, List.append_assoc, hrest,
          List.append_assoc]

/-- Opening leaves nothing staged. -/
theorem transportOpen_staged (h : transportOpen io m = (.ok, m')) :
    m'.transport.staged = [] := by
  unfold transportOpen at h
  split_ifs at h
  · cases h
  split at h
  · cases h
    rfl
  case h_2 hne _ =>
    cases h
    exact absurd rfl hne

variable (io) in
/-- The transport delivers the byte stream.  Over every run of calls after a successful open, up
to the first call that fails, what was handed out and what is staged is what the IN transfers
delivered.  Every call, whatever it returns, asks the IN endpoint for whole packets that fit the
staging memory, at most five times, and keeps its timeouts within its deadline.  A send that
succeeds has had its octets accepted in order, and close leaves nothing behind. -/
theorem usb_stream (m : Machine σ) :
    (∀ opened calls, transportOpen io m = (.ok, opened) →
      ∃ events, (usbCalls io calls opened).2.log = opened.log ++ events ∧
        events.flatMap Event.delivered =
          (usbCalls io calls opened).1 ++ (usbCalls io calls opened).2.transport.staged) ∧
    (∀ call, ∃ events, (usbCall io call m).2.log = m.log ++ events ∧
      (∀ requested ∈ events.filterMap Event.requested,
        0 < requested ∧ m.transport.maxPacketIn.toNat ∣ requested ∧ requested ≤ transferMax) ∧
      (events.filterMap Event.requested).length ≤ 5 ∧ Timely call.timeoutMs events) ∧
    (∀ bytes timeoutMs, (transportSend io bytes timeoutMs m).1 = .ok →
      ∃ events, (transportSend io bytes timeoutMs m).2.log = m.log ++ events ∧
        events.flatMap Event.accepted = bytes) ∧
    ((transportClose io m).2.transport.staged = [] ∧
      (transportClose io m).2.transport.receiveStaging = Block.zero) := by
  refine ⟨fun opened calls hopen => ?_, fun call => ?_, fun bytes timeoutMs hsent => ?_, rfl, rfl⟩
  · obtain ⟨events, hlog, hstream⟩ := usbCalls_stream (Prod.eta (usbCalls io calls opened)).symm
    rw [transportOpen_staged hopen, List.nil_append] at hstream
    exact ⟨events, hlog, hstream⟩
  · obtain ⟨events, hcall, -⟩ := usbCall_spec (Prod.eta (usbCall io call m)).symm
    refine ⟨events, hcall.log, fun requested hr => ?_, hcall.few, hcall.timely⟩
    have hwhole := hcall.whole requested hr
    exact ⟨hwhole.pos, hwhole.packets, hwhole.fits⟩
  · obtain ⟨events, hcall, -, hok⟩ :=
      transportSend_accepted (Prod.eta (transportSend io bytes timeoutMs m)).symm
    exact ⟨events, hcall.log, (hok hsent).1⟩

end Pbns.Usb
