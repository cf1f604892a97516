/-
The byte ring (`pico/src/byte_ring.c`): a queue of octets in a fixed storage.

A ring hands out regions of its storage (`byteRingWritable`, `byteRingReadable`) and is told
afterwards how much of them was used (`byteRingCommit`, `byteRingConsume`).  For a valid ring,
in terms of `ByteRing.contents`:

* `byteRingReadable_eq` — the readable region is the front of the contents;
* `byteRingConsume_contents` — consuming drops that much of the front;
* `byteRingCommit_contents` — committing appends what was stored in the writable region;
* `contents_stored` — storing there without committing changes nothing.
-/
import Pbns.FrameTypes
import Pbns.Ring

namespace Pbns

open Guard

/-- `pbns_buffer`; the capacity is the length of the memory. -/
structure Buffer where
  memory : Octets
  len : ℕ
  deriving DecidableEq

def Buffer.cap (buffer : Buffer) : ℕ := buffer.memory.length

/-- `pbns_byte_ring` -/
structure ByteRing where
  storage : Buffer
  head : ℕ
  length : ℕ
  initialized : Bool
  deriving DecidableEq

/-- `(pbns_byte_ring){0}` -/
def ByteRing.zero : ByteRing := ⟨⟨[], 0⟩, 0, 0, false⟩

/-- `storage_is_valid` -/
def ringStorageIsValid (storage : Buffer) : Bool := storage.len = 0 && 0 < storage.cap

def ringIsValid (ring : ByteRing) : Bool :=
  ring.initialized && ringStorageIsValid ring.storage && ring.head < ring.storage.cap
    && ring.length ≤ ring.storage.cap

def ringTail (ring : ByteRing) : ℕ :=
  let distanceToEnd := ring.storage.cap - ring.head
  if distanceToEnd ≤ ring.length then ring.length - distanceToEnd else ring.head + ring.length

def writableLength (ring : ByteRing) : ℕ :=
  if ring.length = ring.storage.cap then 0
  else
    let tail := ringTail ring
    if tail < ring.head then ring.head - tail else ring.storage.cap - tail

def byteRingInit (storage : Buffer) : ByteRing :=
  if ringStorageIsValid storage then ⟨storage, 0, 0, true⟩ else .zero

def byteRingReset (ring : ByteRing) : ByteRing :=
  if ringIsValid ring then { ring with head := 0, length := 0 } else ring

def byteRingCapacity (ring : ByteRing) : ℕ := if ringIsValid ring then ring.storage.cap else 0

def byteRingSize (ring : ByteRing) : ℕ := if ringIsValid ring then ring.length else 0

/-- The capacity of the region at `ringTail` that is handed out. -/
def byteRingWritable (ring : ByteRing) : Except Status ℕ :=
  if ringIsValid ring then .ok (writableLength ring) else .error .errState

def byteRingCommit (ring : ByteRing) (amount : ℕ) : Except Status ByteRing := do
  rejectIf (ringIsValid ring = false) .errState
  rejectIf (writableLength ring < amount) .errLimit
  return { ring with length := ring.length + amount }

/-- The length of the region at `head` that is handed out. -/
def contiguous (ring : ByteRing) : ℕ :=
  if ring.length < ring.storage.cap - ring.head then ring.length
  else ring.storage.cap - ring.head

def byteRingReadable (ring : ByteRing) : Except Status Octets :=
  if ringIsValid ring then .ok ((ring.storage.memory.drop ring.head).take (contiguous ring))
  else .error .errState

def byteRingConsume (ring : ByteRing) (amount : ℕ) : Except Status ByteRing := do
  rejectIf (ringIsValid ring = false) .errState
  rejectIf (contiguous ring < amount) .errLimit
  if amount = ring.length then return { ring with head := 0, length := 0 }
  let head := ring.head + amount
  return { ring with
    head := if head = ring.storage.cap then 0 else head
    length := ring.length - amount }

/-- What a reader leaves in the storage when it writes `data` into the writable region. -/
def ByteRing.stored (ring : ByteRing) (data : Octets) : ByteRing :=
  { ring with storage.memory := Ring.store ring.storage.memory (ringTail ring) data }

/-- The octets in the ring, in the order they were committed. -/
def ByteRing.contents (ring : ByteRing) : Octets :=
  Ring.contents ring.storage.memory ring.head ring.length

/-- `ring_is_valid`, as a proposition. -/
structure ByteRing.Valid (ring : ByteRing) : Prop where
  initialized : ring.initialized = true
  len : ring.storage.len = 0
  head_lt : ring.head < ring.storage.memory.length
  length_le : ring.length ≤ ring.storage.memory.length

theorem ringIsValid_iff {ring : ByteRing} : ringIsValid ring = true ↔ ring.Valid := by
  constructor
  · intro h
    simp only [ringIsValid, ringStorageIsValid, Bool.and_eq_true, decide_eq_true_eq] at h
    exact ⟨h.1.1.1, h.1.1.2.1, h.1.2, h.2⟩
  · intro h
    have hcap : 0 < ring.storage.memory.length := Nat.zero_lt_of_lt h.head_lt
    simp [ringIsValid, ringStorageIsValid, Buffer.cap, h.initialized, h.len, h.head_lt, h.length_le,
      hcap]

section Valid

variable {ring : ByteRing} (hv : ring.Valid)

include hv

theorem byteRingSize_eq : byteRingSize ring = ring.contents.length := by
  rw [byteRingSize, if_pos (ringIsValid_iff.mpr hv), ByteRing.contents,
    Ring.length_contents hv.length_le (Nat.le_of_lt hv.head_lt)]

theorem contiguous_le : contiguous ring ≤ ring.length
    ∧ ring.head + contiguous ring ≤ ring.storage.memory.length := by
  have := hv.head_lt
  unfold contiguous Buffer.cap
  split <;> omega

theorem byteRingReadable_eq :
    byteRingReadable ring = .ok (ring.contents.take (contiguous ring)) := by
  obtain ⟨hlen, hend⟩ := contiguous_le hv
  rw [byteRingReadable, if_pos (ringIsValid_iff.mpr hv), ByteRing.contents,
    Ring.take_contents hlen hend]

omit hv in
theorem byteRingReadable_eq_ok {readable : Octets} (h : byteRingReadable ring = .ok readable) :
    ring.Valid ∧ readable = ring.contents.take (contiguous ring) := by
  have hv : ring.Valid := by
    rw [byteRingReadable] at h
    split at h
    · exact ringIsValid_iff.mp ‹_›
    · cases h
  exact ⟨hv, Except.ok.inj (h.symm.trans (byteRingReadable_eq hv))⟩

omit hv in
theorem byteRingWritable_eq_ok {capacity : ℕ} (h : byteRingWritable ring = .ok capacity) :
    ring.Valid ∧ capacity = writableLength ring := by
  rw [byteRingWritable] at h
  split at h
  · cases h
    exact ⟨ringIsValid_iff.mp ‹_›, rfl⟩
  · cases h

theorem byteRingConsume_contents {amount : ℕ}
    (ha : amount ≤ (ring.contents.take (contiguous ring)).length) :
    ∃ ring', byteRingConsume ring amount = .ok ring' ∧ ring'.Valid
      ∧ ring'.contents = ring.contents.drop amount := by
  obtain ⟨hlen, hend⟩ := contiguous_le hv
  have hac : amount ≤ contiguous ring := Nat.le_trans ha (List.length_take_le _ _)
  simp only [byteRingConsume, ringIsValid_iff.mpr hv, rejectIf_bind_of_not (c := true = false) nofun,
    rejectIf_bind_of_not (Nat.not_lt.mpr hac), pure, Except.pure]
  have hcap : ring.storage.cap = ring.storage.memory.length := rfl
  have hpos : 0 < ring.storage.memory.length := Nat.zero_lt_of_lt hv.head_lt
  by_cases hall : amount = ring.length
  · -- an emptied ring starts over at the front of its storage
    refine ⟨_, if_pos hall, ⟨hv.initialized, hv.len, hpos, Nat.zero_le _⟩, ?_⟩
    rw [ByteRing.contents, Ring.contents_zero, hall, List.drop_eq_nil_of_le]
    exact List.length_take_le _ _
  · refine ⟨_, if_neg hall, ⟨hv.initialized, hv.len, ?_,
      Nat.le_trans (Nat.sub_le _ _) hv.length_le⟩, ?_⟩
    · dsimp only
      split_ifs <;> omega
    · rw [ByteRing.contents, ByteRing.contents,
        ← Ring.contents_advance hv.length_le (by omega) (by omega)]
      dsimp only
      split_ifs with hwrap
      · rw [hwrap, hcap, Ring.contents_wrap]
      · rfl

/-- Where the writable region lies: nowhere in a full ring, else up to `head` when the contents
go round, and up to the end of the storage when they do not. -/
theorem writable_region :
    (ring.length = ring.storage.cap ∧ writableLength ring = 0)
      ∨ (ringTail ring + ring.storage.cap = ring.head + ring.length
        ∧ ringTail ring + writableLength ring = ring.head)
      ∨ (ringTail ring = ring.head + ring.length
        ∧ ringTail ring + writableLength ring = ring.storage.cap) := by
  have hhead : ring.head < ring.storage.cap := hv.head_lt
  have hlength : ring.length ≤ ring.storage.cap := hv.length_le
  unfold writableLength ringTail
  dsimp only
  split_ifs <;> omega

/-- Storing in the writable region appends behind the contents, as far as a longer queue
would see. -/
theorem contents_store {data : Octets} (hd : data.length ≤ writableLength ring) :
    (Ring.store ring.storage.memory (ringTail ring) data).length = ring.storage.memory.length
      ∧ ring.length + data.length ≤ ring.storage.memory.length
      ∧ Ring.contents (Ring.store ring.storage.memory (ringTail ring) data) ring.head
          (ring.length + data.length) = ring.contents ++ data := by
  have hlength := hv.length_le
  have hhead := hv.head_lt
  have hcap : ring.storage.cap = ring.storage.memory.length := rfl
  obtain ⟨hfull, hnone⟩ | ⟨htail, hroom⟩ | ⟨htail, hroom⟩ := writable_region hv
  · -- nothing can be stored in a full ring
    obtain rfl : data = [] := List.eq_nil_of_length_eq_zero (by omega)
    simpa [Ring.store] using ⟨hlength, rfl⟩
  · exact ⟨Ring.length_store (by omega), by omega,
      Ring.contents_store_round (by omega) (by omega) (by omega)⟩
  · rw [htail]
    exact ⟨Ring.length_store (by omega), by omega, Ring.contents_store_open (by omega)⟩

/-- The writable region is outside the contents. -/
theorem contents_stored {data : Octets} (hd : data.length ≤ writableLength ring) :
    (ring.stored data).Valid ∧ (ring.stored data).contents = ring.contents
      ∧ writableLength (ring.stored data) = writableLength ring := by
  obtain ⟨hlen, -, hstore⟩ := contents_store hv hd
  refine ⟨⟨hv.initialized, hv.len, Nat.lt_of_lt_of_eq hv.head_lt hlen.symm,
    Nat.le_trans hv.length_le (Nat.le_of_eq hlen.symm)⟩, ?_, ?_⟩
  · refine (Ring.contents_take data.length).symm.trans ((congrArg _ hstore).trans ?_)
    exact List.take_left' (Ring.length_contents hv.length_le (Nat.le_of_lt hv.head_lt))
  · have hcap : (ring.stored data).storage.cap = ring.storage.cap := hlen
    unfold writableLength ringTail
    rw [hcap]
    rfl

/-- The reader stores `data` and then some, and `data` is committed. -/
theorem byteRingCommit_contents {data extra : Octets}
    (hd : (data ++ extra).length ≤ writableLength ring) :
    ∃ ring', byteRingCommit (ring.stored (data ++ extra)) data.length = .ok ring' ∧ ring'.Valid
      ∧ ring'.contents = ring.contents ++ data := by
  obtain ⟨hlen, hroom, hstore⟩ := contents_store hv hd
  obtain ⟨hvalid, -, hwritable⟩ := contents_stored hv hd
  rw [List.length_append] at hd hroom
  simp only [byteRingCommit, ringIsValid_iff.mpr hvalid, hwritable,
    rejectIf_bind_of_not (c := true = false) (by simp),
    rejectIf_bind_of_not (show ¬ writableLength ring < data.length by omega)]
  refine ⟨_, rfl, ⟨hv.initialized, hv.len, hvalid.head_lt, ?_⟩, ?_⟩
  · show ring.length + data.length
      ≤ (Ring.store ring.storage.memory (ringTail ring) (data ++ extra)).length
    omega
  · -- only a part of what was stored is in the ring afterwards
    refine Eq.trans (Ring.contents_take extra.length).symm ?_
    rw [Nat.add_assoc, ← List.length_append]
    refine Eq.trans (congrArg (List.take _) hstore) ?_
    rw [← List.append_assoc]
    refine List.take_left' ?_
    rw [List.length_append, ByteRing.contents,
      Ring.length_contents hv.length_le (Nat.le_of_lt hv.head_lt)]
    rfl

end Valid

theorem byteRingInit_valid {storage : Buffer} (h : (byteRingInit storage).initialized = true) :
    (byteRingInit storage).Valid ∧ (byteRingInit storage).contents = [] := by
  unfold byteRingInit at h ⊢
  by_cases hs : ringStorageIsValid storage = true
  · rw [if_pos hs]
    simp only [ringStorageIsValid, Bool.and_eq_true, decide_eq_true_eq] at hs
    exact ⟨⟨rfl, hs.1, hs.2, Nat.zero_le _⟩, Ring.contents_zero⟩
  · rw [if_neg hs] at h
    exact absurd h (by simp [ByteRing.zero])

theorem byteRingReset_valid {ring : ByteRing} (hv : ring.Valid) :
    (byteRingReset ring).Valid ∧ (byteRingReset ring).contents = [] := by
  rw [byteRingReset, if_pos (ringIsValid_iff.mpr hv)]
  exact ⟨⟨hv.initialized, hv.len, Nat.zero_lt_of_lt hv.head_lt, Nat.zero_le _⟩,
    Ring.contents_zero⟩

end Pbns
