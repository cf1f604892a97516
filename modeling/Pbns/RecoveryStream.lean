/-
The recovery stream (`src/core/recovery_stream.c`): DATA frames are hashed and copied
into the pages of the image, every eighth one asks for an acknowledgement, and
COMPLETE compares the digest.

`Receiving image r` is the state of a stream that has taken the first `r` chunks of
`image`:

* `recoveryStreamAccept_chunk` — the next chunk is taken, and an acknowledgement is
  asked for at every multiple of the window;
* `recoveryStreamComplete_image` — COMPLETE behind the last chunk ends the stream with
  the image in the pages.
-/
import Pbns.Stream

/-! ### Chunks of a list -/

namespace Chunks

variable {α : Type}

/-- The `i`-th chunk of `c` elements; the last one may be shorter. -/
def chunk (c i : ℕ) (s : List α) : List α := (s.drop (c * i)).take c

/-- The number of chunks of a list of `n` elements. -/
def count (c n : ℕ) : ℕ := (n + c - 1) / c

theorem length_chunk (c i : ℕ) (s : List α) : (chunk c i s).length = min c (s.length - c * i) := by
  rw [chunk, List.length_take, List.length_drop]

/-- The chunks up to `i`, put together. -/
theorem take_append_chunk (c i : ℕ) (s : List α) :
    s.take (c * i) ++ chunk c i s = s.take (c * (i + 1)) := by
  rw [chunk, Nat.mul_succ, List.take_add]

theorem lt_count_iff {c : ℕ} (hc : 0 < c) {i n : ℕ} : i < count c n ↔ c * i < n := by
  rw [count, Nat.lt_iff_add_one_le, Nat.le_div_iff_mul_le hc, Nat.add_mul, Nat.mul_comm i c]
  omega

theorem le_mul_count {c : ℕ} (hc : 0 < c) (n : ℕ) : n ≤ c * count c n := by
  by_contra h
  exact absurd ((lt_count_iff hc).mpr (Nat.not_le.mp h)) (Nat.lt_irrefl _)

end Chunks

namespace Pbns

open Octets

abbrev Digest := OctetArray 32

def recoveryAckWindow : BitVec 32 := 8#32

/-- `PBNS_RECOVERY_MANIFEST_CHUNK_SIZE` -/
def recoveryChunkSize : ℕ := 16384

/-- `PBNS_RECOVERY_MANIFEST_IMAGE_MAX` -/
def recoveryImageMax : ℕ := 268435456

/-- `pbns_recovery_hash_ops` on a context `η`. -/
structure HashOps (η : Type) where
  begin : η → Status × η
  update : Octets → η → Status × η
  finish : η → Status × Digest × η
  clear : η → η

/-- `pbns_recovery_ack` -/
structure RecoveryAck where
  required : Bool
  nextSequence : BitVec 32
  window : BitVec 32
  deriving DecidableEq

def recoveryAckNone : RecoveryAck := ⟨false, 0#32, 0#32⟩

/-- `pbns_recovery_stream`; `pages` is the memory the pointer of that name refers to. -/
structure RecoveryStream (η : Type) where
  requestId : RequestId
  pages : Octets
  imageSize : ℕ
  offset : ℕ
  expectedDigest : Digest
  nextSequence : BitVec 32
  recordsSinceAck : BitVec 32
  hashContext : η
  hashActive : Bool
  initialized : Bool
  complete : Bool
  failed : Bool

section Calls

variable {η : Type} (ops : HashOps η)

/-- The zeroed structure, over the caller's memory and hash context. -/
def recoveryStreamZero (pages : Octets) (hashContext : η) : RecoveryStream η where
  requestId := List.Vector.replicate 16 0#8
  pages := pages
  imageSize := 0
  offset := 0
  expectedDigest := List.Vector.replicate 32 0#8
  nextSequence := 0#32
  recordsSinceAck := 0#32
  hashContext := hashContext
  hashActive := false
  initialized := false
  complete := false
  failed := false

/-- `fail`: a running hash is cleared. -/
def RecoveryStream.fail (stream : RecoveryStream η) : RecoveryStream η :=
  if stream.hashActive then
    { stream with
      failed := true, hashContext := ops.clear stream.hashContext, hashActive := false }
  else { stream with failed := true }

/-- `validate_frame`. -/
def RecoveryStream.validateFrame (stream : RecoveryStream η) (frame : Frame) : Status :=
  if frame.service ≠ serviceRecoveryArtifact then .errService
  else if frame.requestId ≠ stream.requestId then .errState
  else if frame.flags ≠ 0#8 then .errFormat
  else if frame.sequence ≠ stream.nextSequence ∨ stream.nextSequence = uint32Max then .errSequence
  else .ok

/-- `pbns_recovery_stream_init`; `exactPages` is a buffer of which nothing is in use. -/
def recoveryStreamInit (requestId : RequestId) (exactPages : Octets) (expectedDigest : Digest)
    (hashContext : η) : Status × RecoveryStream η :=
  let zeroed := recoveryStreamZero exactPages hashContext
  if exactPages.length = 0 ∨ recoveryImageMax < exactPages.length ∨ allZero expectedDigest.toList
  then (.errArgument, zeroed)
  else
    match ops.begin hashContext with
    | (.ok, hashContext) =>
      (.ok, { zeroed with
        requestId, imageSize := exactPages.length, expectedDigest, hashContext
        hashActive := true, initialized := true })
    | (status, hashContext) => (status, { zeroed with hashContext := ops.clear hashContext })

/-- The stream behind an accepted DATA frame: the payload is copied behind the octets
already there. -/
def RecoveryStream.stored (stream : RecoveryStream η) (payload : Octets) (hashContext : η) :
    RecoveryStream η :=
  { stream with
    hashContext
    pages := stream.pages.take stream.offset ++ payload ++
      stream.pages.drop (stream.offset + payload.length)
    offset := stream.offset + payload.length
    nextSequence := stream.nextSequence + 1#32
    recordsSinceAck := stream.recordsSinceAck + 1#32 }

/-- `pbns_recovery_stream_accept` for a frame that is in order. -/
def recoveryStreamStore (stream : RecoveryStream η) (payload : Octets) :
    Status × RecoveryAck × RecoveryStream η :=
  match ops.update payload stream.hashContext with
  | (.ok, hashContext) =>
    let stream := stream.stored payload hashContext
    if stream.recordsSinceAck = recoveryAckWindow then
      (.ok, ⟨true, stream.nextSequence, recoveryAckWindow⟩, { stream with recordsSinceAck := 0#32 })
    else (.ok, recoveryAckNone, stream)
  | (status, hashContext) => (status, recoveryAckNone, { stream with hashContext }.fail ops)

/-- `pbns_recovery_stream_accept`. -/
def recoveryStreamAccept (stream : RecoveryStream η) (frame : Frame) (payload : Octets) :
    Status × RecoveryAck × RecoveryStream η :=
  if stream.initialized = false ∨ stream.complete ∨ stream.failed then
    (.errState, recoveryAckNone, stream)
  else if stream.validateFrame frame ≠ .ok then
    (stream.validateFrame frame, recoveryAckNone, stream.fail ops)
  else if frame.type = messageCancel ∨ frame.type = messageError then
    (.errTransport, recoveryAckNone, stream.fail ops)
  else if frame.type ≠ messageData then (.errMessageType, recoveryAckNone, stream.fail ops)
  else if payload.length = 0 ∨ recoveryChunkSize < payload.length ∨
      stream.imageSize < stream.offset then (.errFormat, recoveryAckNone, stream.fail ops)
  else
    let expected := min recoveryChunkSize (stream.imageSize - stream.offset)
    if expected = 0 ∨ payload.length ≠ expected then
      (.errFormat, recoveryAckNone, stream.fail ops)
    else recoveryStreamStore ops stream payload

/-- `pbns_recovery_stream_complete`. -/
def recoveryStreamComplete (stream : RecoveryStream η) (frame : Frame) (payload : Octets) :
    Status × RecoveryStream η :=
  if stream.initialized = false ∨ stream.complete ∨ stream.failed then (.errState, stream)
  else if stream.validateFrame frame ≠ .ok then (stream.validateFrame frame, stream.fail ops)
  else if frame.type ≠ messageComplete ∨ payload.length ≠ 0 then
    (.errMessageType, stream.fail ops)
  else if stream.offset ≠ stream.imageSize then (.errState, stream.fail ops)
  else
    match ops.finish stream.hashContext with
    | (.ok, digest, hashContext) =>
      if digest ≠ stream.expectedDigest then
        (.errAuthentication, { stream with hashContext }.fail ops)
      else
        (.ok, { stream with
          hashContext := ops.clear hashContext, hashActive := false
          nextSequence := stream.nextSequence + 1#32, complete := true })
    | (status, _, hashContext) => (status, { stream with hashContext }.fail ops)

/-- `pbns_recovery_stream_reset`: the pages are wiped, not released. -/
def recoveryStreamReset (stream : RecoveryStream η) : RecoveryStream η :=
  recoveryStreamZero
    (List.replicate stream.imageSize 0#8 ++ stream.pages.drop stream.imageSize)
    (if stream.hashActive then ops.clear stream.hashContext else stream.hashContext)

end Calls

/-- The hash operations compute `sha256` incrementally: `absorbed h s` says that the
context `h` has taken in `s`. -/
structure HashOps.Incremental {η : Type} (ops : HashOps η) (sha256 : Octets → Digest)
    (absorbed : η → Octets → Prop) : Prop where
  begin : ∀ h, (ops.begin h).1 = .ok ∧ absorbed (ops.begin h).2 []
  update : ∀ h s t, absorbed h s → (ops.update t h).1 = .ok ∧ absorbed (ops.update t h).2 (s ++ t)
  finish : ∀ h s, absorbed h s → (ops.finish h).1 = .ok ∧ (ops.finish h).2.1 = sha256 s

section Image

variable {η : Type} {ops : HashOps η} {sha256 : Octets → Digest} {absorbed : η → Octets → Prop}

/-- The number of DATA frames an image of `size` octets takes. -/
def chunkCount (size : ℕ) : ℕ := Chunks.count recoveryChunkSize size

/-- The payload of DATA frame `i`. -/
def chunk (i : ℕ) (image : Octets) : Octets := Chunks.chunk recoveryChunkSize i image

/-- Whoever is asked for sizes up to the maximum sends at most `2 ^ 14` chunks. -/
theorem chunkCount_le {size : ℕ} (h : size ≤ recoveryImageMax) : chunkCount size ≤ 16384 := by
  unfold recoveryImageMax at h
  unfold chunkCount Chunks.count recoveryChunkSize
  omega

theorem lt_chunkCount_iff {i size : ℕ} : i < chunkCount size ↔ 16384 * i < size :=
  Chunks.lt_count_iff (c := 16384) (by decide)

theorem length_chunk (i : ℕ) (image : Octets) :
    (chunk i image).length = min 16384 (image.length - 16384 * i) :=
  Chunks.length_chunk _ _ _

theorem take_append_chunk (i : ℕ) (image : Octets) :
    image.take (16384 * i) ++ chunk i image = image.take (16384 * (i + 1)) :=
  Chunks.take_append_chunk _ _ _

/-- The stream has taken the first `r` chunks of `image` and nothing else. -/
structure RecoveryStream.Receiving (absorbed : η → Octets → Prop) (requestId : RequestId)
    (expectedDigest : Digest) (image : Octets) (r : ℕ) (stream : RecoveryStream η) : Prop where
  requestId : stream.requestId = requestId
  expectedDigest : stream.expectedDigest = expectedDigest
  imageSize : stream.imageSize = image.length
  pagesLength : stream.pages.length = image.length
  pages : stream.pages.take (16384 * r) = image.take (16384 * r)
  offset : stream.offset = min (16384 * r) image.length
  nextSequence : stream.nextSequence = BitVec.ofNat 32 r
  recordsSinceAck : stream.recordsSinceAck = BitVec.ofNat 32 (r % 8)
  absorbed : absorbed stream.hashContext (image.take (16384 * r))
  initialized : stream.initialized = true
  notComplete : stream.complete = false
  notFailed : stream.failed = false

/-- A stream that `recoveryStreamInit` set up has taken nothing. -/
theorem recoveryStreamInit_ok (hops : ops.Incremental sha256 absorbed) {requestId : RequestId}
    {exactPages image : Octets} {expectedDigest : Digest} {hashContext : η}
    {stream : RecoveryStream η} (hlen : exactPages.length = image.length)
    (h : recoveryStreamInit ops requestId exactPages expectedDigest hashContext = (.ok, stream)) :
    stream.Receiving absorbed requestId expectedDigest image 0 ∧
      1 ≤ image.length ∧ image.length ≤ recoveryImageMax := by
  obtain ⟨hok, habs⟩ := hops.begin hashContext
  rw [recoveryStreamInit] at h
  split_ifs at h with hargs
  · simp at h
  rw [show ops.begin hashContext = (.ok, (ops.begin hashContext).2) by rw [← hok]] at h
  simp only [Prod.mk.injEq, true_and] at h
  subst h
  rw [not_or, not_or] at hargs
  refine ⟨⟨rfl, rfl, hlen, hlen, by simp, by simp [recoveryStreamZero], rfl, rfl, ?_, rfl, rfl, rfl⟩,
    by omega, by omega⟩
  simpa using habs

/-- The DATA frame of chunk `r` and the COMPLETE frame behind the last chunk. -/
def transferFrame (requestId : RequestId) (size r : ℕ) : Frame :=
  ⟨serviceRecoveryArtifact, if r < chunkCount size then messageData else messageComplete, 0#8,
    requestId, BitVec.ofNat 32 r⟩

theorem transferFrame_data (requestId : RequestId) {size r : ℕ} (h : r < chunkCount size) :
    (transferFrame requestId size r).type = messageData := if_pos h

theorem transferFrame_complete (requestId : RequestId) {size r : ℕ} (h : chunkCount size ≤ r) :
    (transferFrame requestId size r).type = messageComplete := if_neg (Nat.not_lt.mpr h)

variable {requestId : RequestId} {expectedDigest : Digest} {image : Octets} {r : ℕ}
  {stream : RecoveryStream η}

variable (h : stream.Receiving absorbed requestId expectedDigest image r)

include h

/-- The frame with the next number passes `validate_frame`. -/
theorem RecoveryStream.Receiving.validateFrame (hr : r ≤ 16384) :
    stream.validateFrame (transferFrame requestId image.length r) = .ok := by
  have hmax : BitVec.ofNat 32 r ≠ uint32Max := by
    intro heq
    have := congrArg BitVec.toNat heq
    rw [BitVec.toNat_ofNat, Nat.mod_eq_of_lt (by omega)] at this
    have : uint32Max.toNat = 2 ^ 32 - 1 := by decide
    omega
  rw [RecoveryStream.validateFrame, h.requestId, h.nextSequence, transferFrame]
  simp [hmax]

/-- Copying the next chunk behind the first `r`. -/
theorem RecoveryStream.Receiving.stored (hr : 16384 * r < image.length) :
    stream.pages.take stream.offset ++ chunk r image ++
        stream.pages.drop (stream.offset + (chunk r image).length)
      = image.take (16384 * (r + 1)) ++ stream.pages.drop (16384 * (r + 1)) := by
  have hoff : stream.offset = 16384 * r := by rw [h.offset]; omega
  have hlen := length_chunk r image
  rw [hoff, h.pages, take_append_chunk]
  congr 1
  by_cases hlast : 16384 * (r + 1) ≤ image.length
  · rw [hlen]
    congr 1
    omega
  · -- the last chunk is a short one: nothing is left behind it
    rw [List.drop_of_length_le (by rw [h.pagesLength, hlen]; omega),
      List.drop_of_length_le (by rw [h.pagesLength]; omega)]

omit h in
/-- The window is reached at every eighth chunk. -/
theorem ackWindow_reached {n : ℕ} :
    BitVec.ofNat 32 (n % 8 + 1) = recoveryAckWindow ↔ (n + 1) % 8 = 0 := by
  constructor
  · intro heq
    have := congrArg BitVec.toNat heq
    rw [BitVec.toNat_ofNat, Nat.mod_eq_of_lt (by omega)] at this
    have : recoveryAckWindow.toNat = 8 := by decide
    omega
  · intro h
    rw [show n % 8 + 1 = 8 by omega]
    rfl

/-- The acknowledgement asked for after `n` chunks. -/
def ackAfter (n : ℕ) : RecoveryAck :=
  if n % 8 = 0 then ⟨true, BitVec.ofNat 32 n, recoveryAckWindow⟩ else recoveryAckNone

/-- **The next chunk is taken.** -/
theorem recoveryStreamAccept_chunk (hops : ops.Incremental sha256 absorbed)
    (hmax : image.length ≤ recoveryImageMax) (hr : r < chunkCount image.length) :
    ∃ stream', recoveryStreamAccept ops stream (transferFrame requestId image.length r)
        (chunk r image) = (.ok, ackAfter (r + 1), stream') ∧
      stream'.Receiving absorbed requestId expectedDigest image (r + 1) := by
  have hlt := lt_chunkCount_iff.mp hr
  have hcount := chunkCount_le hmax
  have hlen := length_chunk r image
  have hoff : stream.offset = 16384 * r := by rw [h.offset]; omega
  have hdata := transferFrame_data requestId hr
  obtain ⟨hok, habs⟩ := hops.update stream.hashContext _ (chunk r image) h.absorbed
  rw [take_append_chunk] at habs
  have hstore := h.stored hlt
  -- what the accepted frame leaves, but for the count of records since the last request
  have hnext : ∀ n, n = BitVec.ofNat 32 ((r + 1) % 8) →
      RecoveryStream.Receiving absorbed requestId expectedDigest image (r + 1)
        { stream.stored (chunk r image) (ops.update (chunk r image) stream.hashContext).2 with
          recordsSinceAck := n } := by
    intro n hn
    refine ⟨h.requestId, h.expectedDigest, h.imageSize, ?_, ?_, ?_, ?_, hn, habs, h.initialized,
      h.notComplete, h.notFailed⟩
    · rw [RecoveryStream.stored, hstore, List.length_append, List.length_take, List.length_drop,
        h.pagesLength]
      omega
    · have hrest : (stream.pages.drop (16384 * (r + 1))).take
          (16384 * (r + 1) - min (16384 * (r + 1)) image.length) = [] := by
        rw [List.take_eq_nil_iff, List.drop_eq_nil_iff, h.pagesLength]
        omega
      rw [RecoveryStream.stored, hstore, List.take_append, List.length_take, List.take_take,
        Nat.min_self, hrest, List.append_nil]
    · simp only [RecoveryStream.stored, hoff, hlen]
      omega
    · simp only [RecoveryStream.stored, h.nextSequence]
      exact (BitVec.ofNat_add r 1).symm
  have hsince : stream.recordsSinceAck + 1#32 = BitVec.ofNat 32 (r % 8 + 1) := by
    rw [h.recordsSinceAck, BitVec.ofNat_add]
  have hseq : stream.nextSequence + 1#32 = BitVec.ofNat 32 (r + 1) := by
    rw [h.nextSequence, BitVec.ofNat_add]
  rw [recoveryStreamAccept, if_neg (by simp [h.initialized, h.notComplete, h.notFailed]),
    if_neg (by simp [h.validateFrame (show r ≤ 16384 by omega)]), hdata, if_neg (by decide),
    if_neg (by decide), if_neg (by rw [hlen, hoff, h.imageSize, recoveryChunkSize]; omega)]
  simp only
  rw [if_neg (by rw [hlen, hoff, h.imageSize, recoveryChunkSize]; omega), recoveryStreamStore,
    show ops.update (chunk r image) stream.hashContext
      = (.ok, (ops.update (chunk r image) stream.hashContext).2) by rw [← hok]]
  simp only [RecoveryStream.stored, hsince, hseq]
  by_cases hack : (r + 1) % 8 = 0
  · rw [if_pos (ackWindow_reached.mpr hack), ackAfter, if_pos hack]
    refine ⟨_, rfl, ?_⟩
    have := hnext 0#32 (by rw [hack])
    rwa [RecoveryStream.stored, hseq] at this
  · rw [if_neg fun hc => hack (ackWindow_reached.mp hc), ackAfter, if_neg hack]
    refine ⟨_, rfl, ?_⟩
    have := hnext (BitVec.ofNat 32 (r % 8 + 1)) (by rw [show r % 8 + 1 = (r + 1) % 8 by omega])
    rwa [RecoveryStream.stored, hseq] at this

omit h

/-- **COMPLETE behind the last chunk** ends the stream, with the image in the pages. -/
theorem recoveryStreamComplete_image (hops : ops.Incremental sha256 absorbed)
    (h : stream.Receiving absorbed requestId expectedDigest image (chunkCount image.length))
    (hmax : image.length ≤ recoveryImageMax) (hdigest : sha256 image = expectedDigest) :
    ∃ stream', recoveryStreamComplete ops stream
        (transferFrame requestId image.length (chunkCount image.length)) [] = (.ok, stream') ∧
      stream'.complete = true ∧ stream'.failed = false ∧ stream'.pages = image := by
  have hcover : image.length ≤ 16384 * chunkCount image.length :=
    Chunks.le_mul_count (by decide) image.length
  have hcomplete := transferFrame_complete requestId (Nat.le_refl (chunkCount image.length))
  obtain ⟨hok, hsum⟩ := hops.finish stream.hashContext _ h.absorbed
  rw [List.take_of_length_le hcover, hdigest] at hsum
  have hfinish : ops.finish stream.hashContext
      = (.ok, expectedDigest, (ops.finish stream.hashContext).2.2) := by
    rw [← hok, ← hsum]
  have hpages := h.pages
  rw [List.take_of_length_le (by rw [h.pagesLength]; exact hcover),
    List.take_of_length_le hcover] at hpages
  rw [recoveryStreamComplete, if_neg (by simp [h.initialized, h.notComplete, h.notFailed]),
    if_neg (by simp [h.validateFrame (chunkCount_le hmax)]), hcomplete, if_neg (by simp),
    if_neg (by rw [h.offset, h.imageSize]; omega), hfinish]
  simp only [h.expectedDigest, ne_eq, not_true_eq_false, if_false]
  exact ⟨_, rfl, rfl, h.notFailed, hpages⟩

end Image

end Pbns
