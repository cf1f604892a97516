/-
The credential store (`pico/src/credentials.c`, second part): two flash sectors, each
with a data record and a commit record, written in turn.

The flash is only known by `FlashLaw`: a program may stop anywhere and its status may be
wrong, an erase that did not succeed leaves the slot as it was or invalid.

* `commitRecordIsValid_partly` — a commit record that is valid is complete;
* `writeTransaction_spec` — a transaction replaces the older slot or leaves it, in the
  terms of `TwoSlot`;
* `credentials_survive` — histories of transactions.
-/
import Pbns.Crash
import Pbns.Crc32c
import Pbns.Credentials
import Pbns.Flash
import Pbns.TwoSlot

namespace Pbns

open Octets Crash Flash

/-! ### Records -/

def credentialsSectorSize : ℕ := 4096
def slotDataSize : ℕ := 512
def slotCommitOffset : ℕ := 512
def recordPayloadOffset : ℕ := 20
def recordCrcOffset : ℕ := 508
def commitSize : ℕ := 256
def commitCrcOffset : ℕ := 252

def credentialsRecordMagic : Octets := [0x50#8, 0x42#8, 0x4e#8, 0x43#8]
def credentialsCommitMagic : Octets := [0x50#8, 0x42#8, 0x4f#8, 0x4b#8]

/-- `slot_info` of a valid slot. -/
structure SlotInfo where
  tombstone : Bool
  generation : BitVec 64
  credentials : Credentials
  deriving DecidableEq

section Records

variable {δ : Type} (q : Qcbor δ)

def dataRecordIsValid (data : Octets) : Option SlotInfo :=
  if data.take 4 ≠ credentialsRecordMagic ∨ octetAt data 4 ≠ 1#8 ∨
      (octetAt data 5 ≠ 0#8 ∧ octetAt data 5 ≠ 1#8) ∨ octetAt data 6 ≠ 0#8 ∨
      octetAt data 7 ≠ 0#8 then none
  else
    let generation := readU64Be (data.drop 8)
    let payloadLen := (readU32Be (data.drop 16)).toNat
    let tombstone := octetAt data 5 == 1#8
    if generation = 0#64 ∨ credentialsCborMax < payloadLen ∨
        (tombstone = true ∧ payloadLen ≠ 0) ∨ (tombstone = false ∧ payloadLen = 0) then none
    else if readU32Be (data.drop recordCrcOffset)
        ≠ crc32c (data.take (recordPayloadOffset + payloadLen)) then none
    else if tombstone = true then some ⟨true, generation, credentialsZero⟩
    else
      match credentialsDecodeCbor q ((data.drop recordPayloadOffset).take payloadLen) with
      | .ok credentials => some ⟨false, generation, credentials⟩
      | .error _ => none

def commitRecordIsValid (commit : Octets) (generation : BitVec 64) : Bool :=
  decide (commit.take 4 = credentialsCommitMagic) &&
    decide (readU64Be (commit.drop 4) = generation) &&
    decide (readU32Be (commit.drop commitCrcOffset) = crc32c (commit.take commitCrcOffset))

/-- What `read_slot` makes of the two records. -/
def slotInfo (data commit : Octets) : Option SlotInfo :=
  match dataRecordIsValid q data with
  | some info => if commitRecordIsValid commit info.generation = true then some info else none
  | none => none

def dataRecordHeader (generation : BitVec 64) (tombstone : Bool) (payloadLen : ℕ) : Octets :=
  credentialsRecordMagic ++ [1#8, if tombstone then 1#8 else 0#8, 0#8, 0#8] ++
    writeU64Be generation ++ writeU32Be (BitVec.ofNat 32 payloadLen)

def buildDataRecord (generation : BitVec 64) (tombstone : Bool) (payload : Octets) : Octets :=
  let body := dataRecordHeader generation tombstone payload.length ++ payload
  body ++ List.replicate (recordCrcOffset - body.length) 0xff#8 ++ writeU32Be (crc32c body)

def commitRecordBody (generation : BitVec 64) : Octets :=
  credentialsCommitMagic ++ writeU64Be generation ++ List.replicate 240 0xff#8

def buildCommitRecord (generation : BitVec 64) : Octets :=
  commitRecordBody generation ++ writeU32Be (crc32c (commitRecordBody generation))

theorem length_commitRecordBody (generation : BitVec 64) :
    (commitRecordBody generation).length = commitCrcOffset := by
  rw [commitRecordBody, List.length_append, List.length_append, List.length_replicate,
    writeU64Be_length]
  rfl

theorem length_buildCommitRecord (generation : BitVec 64) :
    (buildCommitRecord generation).length = commitSize := by
  rw [buildCommitRecord, List.length_append, length_commitRecordBody, writeU32Be_length]
  rfl

theorem length_buildDataRecord (generation : BitVec 64) (tombstone : Bool) {payload : Octets}
    (h : payload.length ≤ credentialsCborMax) :
    (buildDataRecord generation tombstone payload).length = slotDataSize := by
  have hheader : (dataRecordHeader generation tombstone payload.length).length = 20 := rfl
  simp only [buildDataRecord, List.length_append, hheader, List.length_replicate,
    writeU32Be_length, recordCrcOffset, slotDataSize]
  simp only [credentialsCborMax] at h
  omega

/-- An erased commit record is not valid. -/
theorem commitRecordIsValid_erased (generation : BitVec 64) :
    commitRecordIsValid (List.replicate commitSize 0xff#8) generation = false := by
  have h : (List.replicate commitSize 0xff#8).take 4 ≠ credentialsCommitMagic := by
    rw [List.take_replicate]
    decide
  rw [commitRecordIsValid, decide_eq_false h, Bool.false_and, Bool.false_and]

/-- **A valid commit record is complete.**  Magic and generation fix the first octets, the
others before the checksum have no bit to clear, so the checksum is over the complete
record, and fixes the rest. -/
theorem commitRecordIsValid_partly {generation : BitVec 64} {page : Octets}
    (hpage : Partly (buildCommitRecord generation) page)
    (hvalid : commitRecordIsValid page generation = true) :
    page = buildCommitRecord generation := by
  obtain ⟨hlen, hbits⟩ := hpage
  rw [length_buildCommitRecord, commitSize] at hlen hbits
  simp only [commitRecordIsValid, Bool.and_eq_true, commitCrcOffset] at hvalid
  obtain ⟨⟨hmagic, hgeneration⟩, hcrc⟩ := hvalid
  replace hmagic := of_decide_eq_true hmagic
  replace hgeneration := of_decide_eq_true hgeneration
  have hword : (page.drop 4).take 8 = writeU64Be generation := by
    rw [← hgeneration, show readU64Be (page.drop 4) = readU64Be ((page.drop 4).take 8) by
      rw [readU64Be, readU64Be, List.take_take, Nat.min_self],
      writeU64Be_readU64Be (by rw [List.length_take, List.length_drop, hlen]; rfl)]
  have hfill : (page.drop 12).take 240 = List.replicate 240 0xff#8 := by
    refine List.ext_getElem (by
      rw [List.length_take, List.length_drop, hlen, List.length_replicate]; rfl) ?_
    intro i hi hi'
    rw [List.length_replicate] at hi'
    obtain ⟨unreached, hbit⟩ := hbits (12 + i) (by omega)
    have htarget : octetAt (buildCommitRecord generation) (12 + i) = 0xff#8 := by
      rw [buildCommitRecord, octetAt_append_left (by
          rw [length_commitRecordBody, commitCrcOffset]; omega), commitRecordBody,
        octetAt_append_right (show 12 ≤ 12 + i by omega)]
      exact octetAt_replicate _ (show 12 + i - 12 < 240 by omega)
    rw [htarget, octetAt_eq_getElem (by omega)] at hbit
    rw [List.getElem_take, List.getElem_drop, List.getElem_replicate, hbit]
    exact BitVec.allOnes_or
  have hbody : page.take 252 = commitRecordBody generation := by
    rw [show (252 : ℕ) = 4 + (8 + 240) from rfl, List.take_add, List.take_add, List.drop_drop,
      hmagic, hword, hfill, commitRecordBody, List.append_assoc]
  have htail : page.drop 252 = writeU32Be (crc32c (commitRecordBody generation)) := by
    rw [← hbody, ← of_decide_eq_true hcrc, writeU32Be_readU32Be (by rw [List.length_drop, hlen])]
  rw [← List.take_append_drop 252 page, hbody, htail, buildCommitRecord]

/-- The payload of a data record. -/
theorem buildDataRecord_payload (generation : BitVec 64) (tombstone : Bool) {payload : Octets}
    (h : payload.length ≤ credentialsCborMax) :
    (readU32Be ((buildDataRecord generation tombstone payload).drop 16)).toNat = payload.length ∧
    ((buildDataRecord generation tombstone payload).drop recordPayloadOffset).take payload.length
      = payload := by
  obtain ⟨front, rest, hfront, hrest⟩ : ∃ front rest, front.length = 16 ∧
      buildDataRecord generation tombstone payload
        = front ++ (writeU32Be (BitVec.ofNat 32 payload.length) ++ (payload ++ rest)) :=
    ⟨credentialsRecordMagic ++ [1#8, if tombstone then 1#8 else 0#8, 0#8, 0#8] ++
      writeU64Be generation, _, rfl,
      by simp only [buildDataRecord, dataRecordHeader, List.append_assoc]; rfl⟩
  have hlt : payload.length < 2 ^ 32 := Nat.lt_of_le_of_lt h (by decide)
  have hheader : (front ++ writeU32Be (BitVec.ofNat 32 payload.length)).length
      = recordPayloadOffset := by
    rw [List.length_append, hfront, writeU32Be_length]
    rfl
  refine ⟨?_, ?_⟩
  · rw [hrest, List.drop_left' hfront, readU32Be_writeU32Be, BitVec.toNat_ofNat,
      Nat.mod_eq_of_lt hlt]
  · rw [hrest, ← List.append_assoc, List.drop_left' hheader, List.take_left]

/-- A valid record that is not a tombstone holds the credentials its payload decodes to. -/
theorem dataRecordIsValid_credentials {data : Octets} {info : SlotInfo}
    (h : dataRecordIsValid q data = some info) (ht : info.tombstone = false) :
    credentialsDecodeCbor q ((data.drop recordPayloadOffset).take (readU32Be (data.drop 16)).toNat)
      = .ok info.credentials := by
  simp only [dataRecordIsValid] at h
  split_ifs at h
  · rw [← Option.some.inj h] at ht
    simp at ht
  · split at h
    · rename_i credentials hdecode
      rw [← Option.some.inj h]
      exact hdecode
    · simp at h

theorem dataRecordIsValid_generation {data : Octets} {info : SlotInfo}
    (h : dataRecordIsValid q data = some info) : info.generation = readU64Be (data.drop 8) := by
  simp only [dataRecordIsValid] at h
  split_ifs at h
  · rw [← Option.some.inj h]
  · split at h
    · rw [← Option.some.inj h]
    · simp at h

theorem buildDataRecord_generation (generation : BitVec 64) (tombstone : Bool) (payload : Octets) :
    readU64Be ((buildDataRecord generation tombstone payload).drop 8) = generation := by
  simp only [buildDataRecord, dataRecordHeader, List.append_assoc]
  rw [← List.append_assoc, List.drop_left' (by rfl), readU64Be_writeU64Be]

end Records

/-! ### Transactions -/

structure CredentialsStorageOps (σ : Type) where
  read : ℕ → ℕ → Prog σ (Status × Octets)
  erase : ℕ → ℕ → Prog σ Status
  program : ℕ → Octets → Prog σ Status

structure CredentialsStorage (σ : Type) where
  ops : CredentialsStorageOps σ
  slotOffsets : Bool → ℕ

/-- `SIZE_MAX` on the 32-bit device. -/
def picoSizeMax : ℕ := 2 ^ 32 - 1

section Transactions

variable {σ δ : Type} (q : Qcbor δ)

def credentialsStorageIsValid (storage : CredentialsStorage σ) : Bool :=
  let first := storage.slotOffsets false
  let second := storage.slotOffsets true
  if first % credentialsSectorSize ≠ 0 ∨ second % credentialsSectorSize ≠ 0 ∨
      picoSizeMax - credentialsSectorSize < first ∨
      picoSizeMax - credentialsSectorSize < second then
    false
  else if first < second + credentialsSectorSize ∧ second < first + credentialsSectorSize then false
  else true

def readSlot (storage : CredentialsStorage σ) (slot : Bool) :
    Prog σ (Status × Option SlotInfo) := do
  let data ← storage.ops.read (storage.slotOffsets slot) slotDataSize
  if data.1 ≠ .ok then return (data.1, none)
  let commit ← storage.ops.read (storage.slotOffsets slot + slotCommitOffset) commitSize
  if commit.1 ≠ .ok then return (commit.1, none)
  return (.ok, slotInfo q data.2 commit.2)

/-- `latest_slot`: `-1` is nowhere, `-2` ambiguous. -/
def latestSlot (slots : Bool → Option SlotInfo) : TwoSlot.Latest :=
  match slots false, slots true with
  | none, none => .nowhere
  | some _, none => .slot false
  | none, some _ => .slot true
  | some first, some second =>
    if first.generation = second.generation then .ambiguous
    else if second.generation < first.generation then .slot false
    else .slot true

/-- The slot `latest_slot` points to. -/
def currentInfo (slots : Bool → Option SlotInfo) : Option SlotInfo :=
  match latestSlot slots with
  | .slot i => slots i
  | _ => none

/-- The slot is valid, with this generation and flag. -/
def slotMatches (info : Option SlotInfo) (generation : BitVec 64) (tombstone : Bool) : Bool :=
  info.any fun info => info.generation == generation && info.tombstone == tombstone

/-- The second half of `write_transaction`, from the erase on.  No credentials stand for a
tombstone. -/
def programSlot (storage : CredentialsStorage σ) (credentials : Option Credentials)
    (encoded : Octets) (generation : BitVec 64) (target : Bool) : Prog σ Status := do
  let offset := storage.slotOffsets target
  let data := buildDataRecord generation credentials.isNone encoded
  let erased ← storage.ops.erase offset credentialsSectorSize
  if erased ≠ .ok then return erased
  let programmed ← storage.ops.program offset data
  if programmed ≠ .ok then return programmed
  let readback ← storage.ops.read offset slotDataSize
  if readback.1 ≠ .ok then return readback.1
  if data ≠ readback.2 ∨
      slotMatches (dataRecordIsValid q readback.2) generation credentials.isNone = false then
    return .errIo
  let committed ← storage.ops.program (offset + slotCommitOffset) (buildCommitRecord generation)
  if committed ≠ .ok then return committed
  let verified ← readSlot q storage target
  if verified.1 ≠ .ok then return verified.1
  if slotMatches verified.2 generation credentials.isNone = false ∨
      credentials.any (fun credentials => verified.2.any (·.credentials != credentials)) = true then
    return .errIo
  return .ok

/-- `write_transaction`. -/
def writeTransaction (storage : CredentialsStorage σ) (credentials : Option Credentials) :
    Prog σ Status :=
  if credentialsStorageIsValid storage = false then return .errArgument
  else
    match credentials.elim (.ok []) (credentialsEncodeCbor · credentialsCborMax) with
    | .error status => return status
    | .ok encoded => do
      let first ← readSlot q storage false
      if first.1 ≠ .ok then return first.1
      let second ← readSlot q storage true
      if second.1 ≠ .ok then return second.1
      let slots := fun i : Bool => if i then second.2 else first.2
      if latestSlot slots = .ambiguous then return .errAmbiguous
      let current := currentInfo slots
      if current.map SlotInfo.generation = some (BitVec.allOnes 64) then return .errLimit
      let generation := current.elim 1#64 (·.generation + 1#64)
      let target := decide (latestSlot slots = .slot false)
      programSlot q storage credentials encoded generation target

/-- `pbns_credentials_load`. -/
def credentialsLoad (storage : CredentialsStorage σ) : Prog σ (Status × Credentials) :=
  if credentialsStorageIsValid storage = false then return (.errArgument, credentialsZero)
  else do
    let first ← readSlot q storage false
    if first.1 ≠ .ok then return (first.1, credentialsZero)
    let second ← readSlot q storage true
    if second.1 ≠ .ok then return (second.1, credentialsZero)
    let slots := fun i : Bool => if i then second.2 else first.2
    if latestSlot slots = .ambiguous then return (.errAmbiguous, credentialsZero)
    match currentInfo slots with
    | some ⟨false, _, credentials⟩ => return (.ok, credentials)
    | _ => return (.errState, credentialsZero)

def credentialsStore (storage : CredentialsStorage σ) (credentials : Credentials) : Prog σ Status :=
  writeTransaction q storage (some credentials)

def credentialsClear (storage : CredentialsStorage σ) : Prog σ Status :=
  writeTransaction q storage none

end Transactions

/-! ### The flash -/

section Flash

variable {σ δ : Type} (q : Qcbor δ)

/-- What the store sees of a slot. -/
def slotAt (offsets : Bool → ℕ) (m : Memory) (slot : Bool) : Option SlotInfo :=
  slotInfo q (m.read (offsets slot) slotDataSize)
    (m.read (offsets slot + slotCommitOffset) commitSize)

/-- The value of a tombstone is no credentials. -/
def SlotInfo.entry (info : SlotInfo) : TwoSlot.Entry (Option Credentials) :=
  ⟨info.generation.toNat, if info.tombstone then none else some info.credentials⟩

def slotsOf (offsets : Bool → ℕ) (m : Memory) : TwoSlot.Slots (Option Credentials) := fun i =>
  (slotAt q offsets m i).map SlotInfo.entry

/-- An erase that was cut short or failed: the slot is as it was, or invalid. -/
def EraseCut (offsets : Bool → ℕ) (m : Memory) (slot : Bool) (m' : Memory) : Prop :=
  m.SameOutside (offsets slot) credentialsSectorSize m' ∧
    (m' = m ∨ slotAt q offsets m' slot = none)

/-- Reads of flash with contents `memory`, that may fail or not. -/
def ReadLaw (mayFail : Prop) (storage : CredentialsStorage σ) (memory : σ → Memory) : Prop :=
  ∀ m offset size, Triple (memory · = m) (storage.ops.read offset size)
    (fun r s => (mayFail ∧ r.1 = .errIo ∨ r = (.ok, m.read offset size)) ∧ memory s = m)
    (fun s => mayFail ∧ memory s = m)

/-- The storage functions on flash with contents `memory`. -/
structure FlashLaw (storage : CredentialsStorage σ) (memory : σ → Memory) : Prop where
  read : ReadLaw True storage memory
  erase : ∀ m slot, Triple (memory · = m)
    (storage.ops.erase (storage.slotOffsets slot) credentialsSectorSize)
    (fun status s => (status = .ok ∧
        m.Erased (storage.slotOffsets slot) credentialsSectorSize (memory s)) ∨
      (status ≠ .ok ∧ EraseCut q storage.slotOffsets m slot (memory s)))
    (fun s => EraseCut q storage.slotOffsets m slot (memory s))
  program : ∀ m offset source, Triple (memory · = m) (storage.ops.program offset source)
    (fun _ s => m.Programmed offset source (memory s))
    (fun s => m.Programmed offset source (memory s))

variable {q}

theorem latestSlot_eq (slots : Bool → Option SlotInfo) :
    latestSlot slots = TwoSlot.latest fun i => (slots i).map SlotInfo.entry := by
  rw [latestSlot, TwoSlot.latest]
  rcases slots false with _ | first <;> rcases slots true with _ | second
  · rfl
  · rfl
  · rfl
  · simp only [Option.map_some, SlotInfo.entry, BitVec.toNat_inj, BitVec.lt_def]

/-- The sectors do not overlap. -/
theorem credentialsStorageIsValid_disjoint {storage : CredentialsStorage σ}
    (h : credentialsStorageIsValid storage = true) (i : Bool) :
    storage.slotOffsets (!i) + credentialsSectorSize ≤ storage.slotOffsets i ∨
      storage.slotOffsets i + credentialsSectorSize ≤ storage.slotOffsets (!i) := by
  simp only [credentialsStorageIsValid] at h
  split_ifs at h with h1 h2
  cases i with
  | false => simp only [Bool.not_false]; omega
  | true => simp only [Bool.not_true]; omega

variable {m m' : Memory} {generation : BitVec 64} {info : SlotInfo}
   {credentials : Option Credentials} {encoded : Octets} {mayFail : Prop} {offsets : Bool → ℕ}
   {target : Bool}

/-- A change in one sector changes one slot. -/
theorem slotsOf_update {storage : CredentialsStorage σ}
    (h : credentialsStorageIsValid storage = true) {i : Bool}
    (hsame : m.SameOutside (storage.slotOffsets i) credentialsSectorSize m') :
    slotsOf q storage.slotOffsets m' = Function.update (slotsOf q storage.slotOffsets m) i
      (slotsOf q storage.slotOffsets m' i) := by
  have hdisjoint := credentialsStorageIsValid_disjoint h i
  funext j
  by_cases hj : j = i
  · rw [hj, Function.update_self]
  · have hj' : j = !i := by cases i <;> cases j <;> simp_all
    rw [Function.update_of_ne hj, hj', slotsOf, slotsOf, slotAt, slotAt]
    simp only [credentialsSectorSize] at hdisjoint hsame
    rw [hsame.read (by simp only [slotDataSize]; omega),
      hsame.read (by simp only [slotCommitOffset, commitSize]; omega)]

theorem slotInfo_erased (data : Octets) :
    slotInfo q data (List.replicate commitSize 0xff#8) = none := by
  rw [slotInfo]
  split
  · rw [commitRecordIsValid_erased]
    rfl
  · rfl

/-- A half-programmed commit record does not count. -/
theorem slotInfo_partly {data page : Octets} (hdata : dataRecordIsValid q data = some info)
    (hgen : info.generation = generation) (hpage : Partly (buildCommitRecord generation) page) :
    slotInfo q data page = none ∨
      page = buildCommitRecord generation ∧ slotInfo q data page = some info := by
  rw [slotInfo, hdata]
  simp only [hgen]
  split
  · exact .inr ⟨commitRecordIsValid_partly hpage ‹_›, rfl⟩
  · exact .inl rfl

/-- The entry of a record that was built for a value. -/
theorem entry_buildDataRecord
    (hencoded : credentials.elim (.ok []) (credentialsEncodeCbor · credentialsCborMax)
      = .ok encoded)
    (hdata : dataRecordIsValid q (buildDataRecord generation credentials.isNone encoded)
      = some info) (hgen : info.generation = generation)
    (htombstone : info.tombstone = credentials.isNone) :
    info.entry = ⟨generation.toNat, credentials⟩ := by
  cases credentials with
  | none => rw [SlotInfo.entry, hgen, htombstone]; rfl
  | some credentials =>
    obtain ⟨_, hvalid, hencoded⟩ := Guard.bind_eq_ok.mp hencoded
    obtain ⟨hcap, hencoded⟩ := Guard.rejectIf_bind_eq_ok.mp hencoded
    obtain rfl : credentials.canonical = encoded := Except.ok.inj hencoded
    -- the payload decodes to credentials with the same encoding, so to the same ones
    have hdecode := dataRecordIsValid_credentials q hdata htombstone
    obtain ⟨hlen, hpayload⟩ := buildDataRecord_payload generation false (Nat.not_lt.mp hcap)
    simp only [Option.isNone_some] at hdecode
    rw [hlen, hpayload] at hdecode
    obtain ⟨hvalid', hsame⟩ := credentialsDecodeCbor_ok hdecode
    have hcredentials := canonical_injective hvalid' hvalid hsame
    rw [SlotInfo.entry, hgen, htombstone, hcredentials]
    rfl

/-- A read that may fail, with the test of its status. -/
theorem read_checked {α β : Type} {P C : σ → Prop} {Q : β → σ → Prop} {m : Prog σ (Status × α)}
    {a : α} (hm : Triple P m (fun r s => (mayFail ∧ r.1 = .errIo ∨ r = (.ok, a)) ∧ P s)
      (fun s => mayFail ∧ P s)) {f : Status × α → β} {rest : Status × α → Prog σ β}
    (hfail : mayFail → ∀ r, r.1 = .errIo → ∀ s, P s → Q (f r) s)
    (hrest : Triple P (rest (.ok, a)) Q C) (hC : mayFail → ∀ s, P s → C s) :
    Triple P (m >>= fun r => if r.1 ≠ .ok then pure (f r) else rest r) Q C := by
  refine Triple.bind (hm.conseq (fun _ hs => hs) (fun _ _ hs => hs) fun s hs => hC hs.1 s hs.2)
    fun r => ?_
  refine Triple.ite (fun hne => Triple.pure ?_) (fun hok => ?_)
  · rintro s ⟨⟨hmay, hio⟩ | rfl, hs⟩
    · exact hfail hmay r hio s hs
    · exact absurd rfl hne
  · refine Triple.assume (φ := r = (.ok, a)) ?_ ?_
    · rintro s ⟨⟨-, hio⟩ | heq, -⟩
      · rw [hio] at hok
        cases not_not.mp hok
      · exact heq
    · rintro rfl
      exact hrest.conseq (fun _ hs => hs.2) (fun _ _ hs => hs) (fun _ hs => hs)

variable {storage : CredentialsStorage σ} {memory : σ → Memory}

theorem readSlot_spec (hlaw : ReadLaw mayFail storage memory) (m : Memory) (slot : Bool) :
    Triple (memory · = m) (readSlot q storage slot)
      (fun r s => (mayFail ∧ r.1 = .errIo ∨ r = (.ok, slotAt q storage.slotOffsets m slot)) ∧
        memory s = m)
      (fun s => mayFail ∧ memory s = m) := by
  refine read_checked (hlaw m _ _) (fun hmay r hio s hs => ⟨.inl ⟨hmay, hio⟩, hs⟩) ?_
    (fun hmay _ hs => ⟨hmay, hs⟩)
  refine read_checked (hlaw m _ _) (fun hmay r hio s hs => ⟨.inl ⟨hmay, hio⟩, hs⟩) ?_
    (fun hmay _ hs => ⟨hmay, hs⟩)
  exact Triple.pure fun s hs => ⟨.inr (by rw [slotAt]), hs⟩

/-- An encoding fits its record. -/
theorem length_encoded
    (h : credentials.elim (.ok []) (credentialsEncodeCbor · credentialsCborMax) = .ok encoded) :
    encoded.length ≤ credentialsCborMax := by
  cases credentials with
  | none =>
    obtain rfl : ([] : Octets) = encoded := Except.ok.inj h
    exact Nat.zero_le _
  | some credentials =>
    obtain ⟨_, -, h⟩ := Guard.bind_eq_ok.mp h
    obtain ⟨hcap, h⟩ := Guard.rejectIf_bind_eq_ok.mp h
    obtain rfl : credentials.canonical = encoded := Except.ok.inj h
    exact Nat.not_lt.mp hcap

theorem encode_ne_error_ok (credentials : Option Credentials) :
    credentials.elim (.ok []) (credentialsEncodeCbor · credentialsCborMax) ≠ .error .ok := by
  cases credentials with
  | none => exact fun h => absurd h (by simp)
  | some credentials =>
    simp [credentialsEncodeCbor, validateCredentials, encodeCanonical, Guard.bind_eq_error,
      Guard.rejectIf_eq_error]

/-- What a transaction for `credentials` leaves of a slot it writes. -/
def Touched (q : Qcbor δ) (offsets : Bool → ℕ) (m : Memory) (target : Bool)
    (credentials : Option Credentials) (m' : Memory) : Prop :=
  m.SameOutside (offsets target) credentialsSectorSize m' ∧
    (slotAt q offsets m' target = slotAt q offsets m target ∨
      slotAt q offsets m' target = none ∨
      ∃ info, slotAt q offsets m' target = some info ∧
        info.entry = ⟨TwoSlot.generation (slotsOf q offsets m) + 1, credentials⟩)

/-- After the erase: the commit record is erased. -/
structure Erasing (offsets : Bool → ℕ) (m : Memory) (target : Bool) (m' : Memory) : Prop where
  same : m.SameOutside (offsets target) credentialsSectorSize m'
  commit : m'.read (offsets target + slotCommitOffset) commitSize = List.replicate commitSize 0xff#8

theorem Erasing.touched (h : Erasing offsets m target m') (credentials : Option Credentials) :
    Touched q offsets m target credentials m' := by
  refine ⟨h.same, .inr (.inl ?_)⟩
  rw [slotAt, h.commit, slotInfo_erased]

/-- Programming the data record leaves the commit record erased. -/
theorem Erasing.of_programmed {m₁ m₂ : Memory} {data : Octets}
    (herased : m.Erased (offsets target) credentialsSectorSize m₁)
    (hm : m₁.Programmed (offsets target) data m₂) (hlen : data.length = slotDataSize) :
    Erasing offsets m target m₂ := by
  have hsame := hm.1
  rw [hlen] at hsame
  simp only [credentialsSectorSize, slotDataSize] at herased hsame
  refine ⟨herased.1.trans hsame (Nat.le_refl _) (by omega), ?_⟩
  simp only [slotCommitOffset, commitSize]
  rw [hsame.read (.inr (Nat.le_refl _)), herased.read (Nat.le_add_right _ _) (by omega)]

/-- Programming the commit record leaves the slot invalid, or valid with the data record
that was read back. -/
theorem Erasing.committed {m₂ m₃ : Memory} (h : Erasing offsets m target m₂)
    (hdata : dataRecordIsValid q (m₂.read (offsets target) slotDataSize) = some info)
    (hm : m₂.Programmed (offsets target + slotCommitOffset) (buildCommitRecord info.generation)
      m₃) :
    m.SameOutside (offsets target) credentialsSectorSize m₃ ∧
      (slotAt q offsets m₃ target = none ∨ slotAt q offsets m₃ target = some info) := by
  have hlen := length_buildCommitRecord info.generation
  have hpage := hm.read (by rw [hlen]; exact h.commit)
  have hsame := hm.1
  rw [hlen] at hpage hsame
  refine ⟨h.same.trans hsame (Nat.le_add_right _ _) ?_, ?_⟩
  · simp only [slotCommitOffset, commitSize, credentialsSectorSize]
    omega
  · have hread : m₃.read (offsets target) slotDataSize = m₂.read (offsets target) slotDataSize :=
      hsame.read (.inl (Nat.le_refl _))
    rw [← hread] at hdata
    rw [slotAt]
    exact (slotInfo_partly hdata rfl hpage).imp id And.right

/-- **The second half of a transaction**: the slot is left as it was, invalid, or with the
new entry, and with the new entry if the transaction succeeds. -/
theorem programSlot_spec (hlaw : FlashLaw q storage memory) (m : Memory)
    (hencoded : credentials.elim (.ok []) (credentialsEncodeCbor · credentialsCborMax)
      = .ok encoded)
    (hgeneration : generation.toNat = TwoSlot.generation (slotsOf q storage.slotOffsets m) + 1) :
    Triple (memory · = m) (programSlot q storage credentials encoded generation target)
      (fun status s => Touched q storage.slotOffsets m target credentials (memory s) ∧
        (status = .ok → slotsOf q storage.slotOffsets (memory s) target = some
          ⟨TwoSlot.generation (slotsOf q storage.slotOffsets m) + 1, credentials⟩))
      (fun s => Touched q storage.slotOffsets m target credentials (memory s)) := by
  have hlen := length_buildDataRecord generation credentials.isNone (length_encoded hencoded)
  have hcut : ∀ m', EraseCut q storage.slotOffsets m target m' →
      Touched q storage.slotOffsets m target credentials m' := by
    rintro m' ⟨hsame, rfl | hnone⟩
    · exact ⟨hsame, .inl rfl⟩
    · exact ⟨hsame, .inr (.inl hnone)⟩
  refine Triple.bind ((hlaw.erase m target).conseq (fun _ hs => hs) (fun _ _ hs => hs)
    (fun _ hs => hcut _ hs)) fun erased => ?_
  refine Triple.ite (fun hne => Triple.pure ?_) (fun hok => ?_)
  · rintro s (⟨hok, -⟩ | ⟨-, hs⟩)
    · exact absurd hok hne
    · exact ⟨hcut _ hs, fun hok => absurd hok hne⟩
  -- the data record is programmed
  refine Triple.named ?_
  rintro s₁ (⟨-, herased⟩ | ⟨hne, -⟩)
  swap
  · exact absurd (not_not.mp hok) hne
  refine Triple.bind ((hlaw.program (memory s₁) _ _).conseq (by rintro s rfl; rfl)
    (fun _ _ hs => Erasing.of_programmed herased hs hlen)
    (fun _ hs => (Erasing.of_programmed herased hs hlen).touched _)) fun programmed => ?_
  refine Triple.ite (fun hne => Triple.pure fun s hs =>
    ⟨hs.touched _, fun hok => absurd hok hne⟩) (fun _ => ?_)
  -- and read back
  refine Triple.named ?_
  intro s₂ hs₂
  refine (read_checked (P := (memory · = memory s₂)) (hlaw.read (memory s₂) _ _) ?_ ?_ ?_).conseq
    (by rintro s rfl; rfl) (fun _ _ hs => hs) (fun _ hs => hs)
  · rintro - r hio s hs
    exact ⟨hs ▸ hs₂.touched _, fun hok => absurd (hok.symm.trans hio) (by decide)⟩
  swap
  · rintro - s hs
    exact hs ▸ hs₂.touched _
  refine Triple.ite (fun _ => Triple.pure fun s hs => ⟨hs ▸ hs₂.touched _, by simp⟩)
    (fun hback => ?_)
  dsimp only at hback
  rw [not_or, not_not, Bool.not_eq_false, slotMatches, Option.any_eq_true] at hback
  obtain ⟨hsame, info, hinfo, hmatch⟩ := hback
  rw [Bool.and_eq_true, beq_iff_eq, beq_iff_eq] at hmatch
  obtain ⟨rfl, htombstone⟩ := hmatch
  have hentry : info.entry
      = ⟨TwoSlot.generation (slotsOf q storage.slotOffsets m) + 1, credentials⟩ := by
    rw [← hgeneration]
    rw [← hsame] at hinfo
    exact entry_buildDataRecord hencoded hinfo rfl htombstone
  -- the commit record is programmed
  have htouched : ∀ m₃, (m.SameOutside (storage.slotOffsets target) credentialsSectorSize m₃ ∧
      (slotAt q storage.slotOffsets m₃ target = none ∨
        slotAt q storage.slotOffsets m₃ target = some info)) →
      Touched q storage.slotOffsets m target credentials m₃ := by
    rintro m₃ ⟨hout, hslot⟩
    exact ⟨hout, .inr (hslot.imp id fun hslot => ⟨info, hslot, hentry⟩)⟩
  refine Triple.bind ((hlaw.program (memory s₂) _ _).conseq (fun _ hs => hs)
    (fun _ _ hs => hs₂.committed hinfo hs)
    (fun _ hs => htouched _ (hs₂.committed hinfo hs))) fun committed => ?_
  refine Triple.ite (fun hne => Triple.pure fun s hs =>
    ⟨htouched _ hs, fun hok => absurd hok hne⟩) (fun _ => ?_)
  -- the slot is verified
  refine Triple.named ?_
  intro s₃ hs₃
  refine (read_checked (P := (memory · = memory s₃)) (readSlot_spec hlaw.read (memory s₃) target)
    ?_ ?_ ?_).conseq (by rintro s rfl; rfl) (fun _ _ hs => hs) (fun _ hs => hs)
  · rintro - r hio s hs
    exact ⟨hs ▸ htouched _ hs₃, fun hok => absurd (hok.symm.trans hio) (by decide)⟩
  swap
  · rintro - s hs
    exact hs ▸ htouched _ hs₃
  refine Triple.ite (fun _ => Triple.pure fun s hs => ⟨hs ▸ htouched _ hs₃, by simp⟩)
    (fun hverified => Triple.pure fun s hs => ⟨hs ▸ htouched _ hs₃, fun _ => ?_⟩)
  rw [not_or, Bool.not_eq_false] at hverified
  rcases hs₃.2 with hnone | hsome
  · rw [hnone] at hverified
    exact absurd hverified.1 (by simp [slotMatches])
  · rw [hs, slotsOf, hsome, Option.map_some, hentry]

/-- A transaction changed nothing, or wrote to the older slot. -/
def Transacted (q : Qcbor δ) (offsets : Bool → ℕ) (m : Memory) (credentials : Option Credentials)
    (m' : Memory) : Prop :=
  slotsOf q offsets m' = slotsOf q offsets m ∨
    TwoSlot.latest (slotsOf q offsets m) ≠ .ambiguous ∧
      ∃ x, TwoSlot.Left (slotsOf q offsets m) credentials x ∧
        slotsOf q offsets m' = TwoSlot.replace (slotsOf q offsets m) x

theorem Touched.transacted (hvalid : credentialsStorageIsValid storage = true)
    (hamb : TwoSlot.latest (slotsOf q storage.slotOffsets m) ≠ .ambiguous)
    (htarget : target = TwoSlot.target (slotsOf q storage.slotOffsets m))
    (h : Touched q storage.slotOffsets m target credentials m') :
    Transacted q storage.slotOffsets m credentials m' := by
  refine .inr ⟨hamb, slotsOf q storage.slotOffsets m' target, ?_, ?_⟩
  · rw [TwoSlot.Left, ← htarget]
    rcases h.2 with hold | hnone | ⟨info, hinfo, hentry⟩
    · exact .inl (by rw [slotsOf, slotsOf, hold])
    · exact .inr (.inl (by rw [slotsOf, hnone]; rfl))
    · exact .inr (.inr (by rw [slotsOf, hinfo, Option.map_some, hentry]))
  · rw [TwoSlot.replace, ← htarget]
    exact slotsOf_update hvalid h.1

theorem currentInfo_entry (slots : Bool → Option SlotInfo) :
    (currentInfo slots).map SlotInfo.entry
      = TwoSlot.newest fun i => (slots i).map SlotInfo.entry := by
  rw [currentInfo, TwoSlot.newest, ← latestSlot_eq]
  cases latestSlot slots <;> rfl

/-- The target and the generation of a transaction are those of the slots. -/
theorem target_generation {slots : Bool → Option SlotInfo}
    (hlimit : (currentInfo slots).map SlotInfo.generation ≠ some (BitVec.allOnes 64)) :
    decide (latestSlot slots = .slot false)
        = TwoSlot.target (fun i => (slots i).map SlotInfo.entry) ∧
      ((currentInfo slots).elim 1#64 (·.generation + 1#64)).toNat
        = TwoSlot.generation (fun i => (slots i).map SlotInfo.entry) + 1 := by
  refine ⟨?_, ?_⟩
  · rw [TwoSlot.target, ← latestSlot_eq]
    rcases latestSlot slots with _ | _ | i
    · rfl
    · rfl
    · cases i <;> rfl
  · rw [TwoSlot.generation, ← currentInfo_entry]
    rcases hcurrent : currentInfo slots with _ | info
    · rfl
    · rw [hcurrent] at hlimit
      exact toNat_next fun heq => hlimit (congrArg some heq)

theorem slotAt_eta (offsets : Bool → ℕ) (m : Memory) :
    (fun i : Bool => if i then slotAt q offsets m true else slotAt q offsets m false)
      = slotAt q offsets m := by
  funext i
  cases i <;> rfl

/-- **A transaction** that succeeds has taken effect. -/
theorem writeTransaction_spec (hlaw : FlashLaw q storage memory) (m : Memory)
    (credentials : Option Credentials) :
    Triple (memory · = m) (writeTransaction q storage credentials)
      (fun status s => Transacted q storage.slotOffsets m credentials (memory s) ∧
        (status = .ok → TwoSlot.newest (slotsOf q storage.slotOffsets (memory s)) = some
          ⟨TwoSlot.generation (slotsOf q storage.slotOffsets m) + 1, credentials⟩))
      (fun s => Transacted q storage.slotOffsets m credentials (memory s)) := by
  have hkeep : ∀ s, memory s = m → Transacted q storage.slotOffsets m credentials (memory s) :=
    fun s hs => .inl (by rw [hs])
  refine Triple.ite (fun _ => Triple.pure fun s hs => ⟨hkeep s hs, by simp⟩) (fun hvalid => ?_)
  split
  · rename_i status hstatus
    refine Triple.pure fun s hs => ⟨hkeep s hs, ?_⟩
    rintro rfl
    exact absurd hstatus (encode_ne_error_ok credentials)
  rename_i encoded hencoded
  have hio : ∀ r : Status × Option SlotInfo, r.1 = .errIo → ∀ s, memory s = m →
      Transacted q storage.slotOffsets m credentials (memory s) ∧ (r.1 = .ok →
        TwoSlot.newest (slotsOf q storage.slotOffsets (memory s)) = some
          ⟨TwoSlot.generation (slotsOf q storage.slotOffsets m) + 1, credentials⟩) :=
    fun r hr s hs => ⟨hkeep s hs, fun hok => absurd (hok.symm.trans hr) (by decide)⟩
  refine read_checked (readSlot_spec hlaw.read m false) (fun _ => hio) ?_ (fun _ => hkeep)
  refine read_checked (readSlot_spec hlaw.read m true) (fun _ => hio) ?_ (fun _ => hkeep)
  dsimp only
  rw [slotAt_eta]
  refine Triple.ite (fun _ => Triple.pure fun s hs => ⟨hkeep s hs, by simp⟩) (fun hamb => ?_)
  refine Triple.ite (fun _ => Triple.pure fun s hs => ⟨hkeep s hs, by simp⟩) (fun hlimit => ?_)
  obtain ⟨htarget, hgeneration⟩ := target_generation hlimit
  rw [latestSlot_eq] at hamb
  rw [Bool.not_eq_false] at hvalid
  have htouched : ∀ m', Touched q storage.slotOffsets m _ credentials m' →
      Transacted q storage.slotOffsets m credentials m' :=
    fun m' => Touched.transacted hvalid hamb htarget
  refine (programSlot_spec hlaw m hencoded hgeneration).conseq (fun _ hs => hs) ?_
    (fun s hs => htouched _ hs)
  rintro status s ⟨hs, hok⟩
  refine ⟨htouched _ hs, fun hstatus => ?_⟩
  rw [slotsOf_update hvalid hs.1, hok hstatus, htarget]
  exact (TwoSlot.newest_new hamb credentials).2

/-- What a load returns for the value that counts. -/
def loadedValue : Option Credentials → Status × Credentials
  | some credentials => (.ok, credentials)
  | none => (.errState, credentialsZero)

/-- **A load** returns the value that counts. -/
theorem credentialsLoad_spec (hlaw : ReadLaw mayFail storage memory)
    (hvalid : credentialsStorageIsValid storage = true)
    (hamb : TwoSlot.latest (slotsOf q storage.slotOffsets m) ≠ .ambiguous) :
    Triple (memory · = m) (credentialsLoad q storage)
      (fun r _ => mayFail ∧ r = (.errIo, credentialsZero) ∨
        r = loadedValue (TwoSlot.value none (slotsOf q storage.slotOffsets m)))
      (fun _ => mayFail) := by
  refine Triple.ite (fun hne => absurd (hvalid.symm.trans hne) (by simp)) (fun _ => ?_)
  refine read_checked (readSlot_spec hlaw m false) (fun hmay r hio s hs => .inl ⟨hmay, by rw [hio]⟩)
    ?_ (fun hmay _ _ => hmay)
  refine read_checked (readSlot_spec hlaw m true) (fun hmay r hio s hs => .inl ⟨hmay, by rw [hio]⟩)
    ?_ (fun hmay _ _ => hmay)
  dsimp only
  rw [slotAt_eta]
  refine Triple.ite (fun heq => absurd ((latestSlot_eq _).symm.trans heq) hamb) (fun _ => ?_)
  have hnewest : (currentInfo (slotAt q storage.slotOffsets m)).map SlotInfo.entry
      = TwoSlot.newest (slotsOf q storage.slotOffsets m) := currentInfo_entry _
  rw [TwoSlot.value, ← hnewest]
  rcases currentInfo (slotAt q storage.slotOffsets m) with _ | ⟨tombstone, generation, credentials⟩
  · exact Triple.pure fun s hs => .inr rfl
  · cases tombstone with
    | false => exact Triple.pure fun s hs => .inr rfl
    | true => exact Triple.pure fun s hs => .inr rfl

/-! ### Histories -/

/-- What the transactions return, one after the other, and the state they leave.  A
transaction that was cut short returns nothing. -/
def transactions (q : Qcbor δ) (storage : CredentialsStorage σ) :
    List (Option Credentials) → σ → List (Option Status) × σ
  | [], s => ([], s)
  | credentials :: rest, s =>
    let first := writeTransaction q storage credentials s
    let others := transactions q storage rest first.2
    (first.1 :: others.1, others.2)

/-- One transaction, finished or cut short. -/
theorem writeTransaction_step (hlaw : FlashLaw q storage memory) (credentials : Option Credentials)
    {s s' : σ} {r : Option Status} (heq : writeTransaction q storage credentials s = (r, s'))
    (hamb : TwoSlot.latest (slotsOf q storage.slotOffsets (memory s)) ≠ .ambiguous) :
    TwoSlot.latest (slotsOf q storage.slotOffsets (memory s')) ≠ .ambiguous ∧
    TwoSlot.generation (slotsOf q storage.slotOffsets (memory s))
      ≤ TwoSlot.generation (slotsOf q storage.slotOffsets (memory s')) ∧
    ∃ took : Bool, (r = some .ok → took = true) ∧
      TwoSlot.value none (slotsOf q storage.slotOffsets (memory s'))
        = if took then credentials
          else TwoSlot.value none (slotsOf q storage.slotOffsets (memory s)) := by
  obtain ⟨hret, hcrash⟩ := writeTransaction_spec hlaw (memory s) credentials s rfl
  have hmoved : Transacted q storage.slotOffsets (memory s) credentials (memory s') ∧
      (r = some .ok → TwoSlot.newest (slotsOf q storage.slotOffsets (memory s')) = some
        ⟨TwoSlot.generation (slotsOf q storage.slotOffsets (memory s)) + 1, credentials⟩) := by
    cases r with
    | none => exact ⟨hcrash s' heq, by simp⟩
    | some status =>
      obtain ⟨hmoved, hok⟩ := hret status s' heq
      exact ⟨hmoved, fun h => hok (Option.some.inj h)⟩
  obtain ⟨hmoved, hok⟩ := hmoved
  by_cases hr : r = some .ok
  · refine ⟨?_, ?_, true, fun _ => rfl, ?_⟩
    · intro hl
      have := hok hr
      rw [TwoSlot.newest, hl] at this
      simp at this
    · rw [TwoSlot.generation_of_newest (hok hr)]
      exact Nat.le_succ _
    · rw [TwoSlot.value, hok hr]
      rfl
  · rcases hmoved with hsame | ⟨-, x, hx, hslots⟩
    · rw [hsame]
      exact ⟨hamb, Nat.le_refl _, false, fun h => absurd h hr, rfl⟩
    · rw [hslots]
      obtain ⟨took, hvalue⟩ := TwoSlot.value_replace hamb none hx
      exact ⟨TwoSlot.latest_replace_ne hamb hx, TwoSlot.generation_le_replace hamb hx, took,
        fun h => absurd h hr, hvalue⟩

/-- **A history of transactions**: the value that counts at the end is that of the last
one that took effect. -/
theorem transactions_value (hlaw : FlashLaw q storage memory) (values : List (Option Credentials))
    (s : σ) (hamb : TwoSlot.latest (slotsOf q storage.slotOffsets (memory s)) ≠ .ambiguous) :
    TwoSlot.latest (slotsOf q storage.slotOffsets (memory (transactions q storage values s).2))
        ≠ .ambiguous ∧
    ∃ took : List Bool, took.length = values.length ∧
      (∀ i : ℕ, (transactions q storage values s).1[i]? = some (some .ok) →
        took[i]? = some true) ∧
      TwoSlot.value none
          (slotsOf q storage.slotOffsets (memory (transactions q storage values s).2))
        = TwoSlot.lastEffective
            (TwoSlot.value none (slotsOf q storage.slotOffsets (memory s))) (values.zip took) := by
  induction values generalizing s with
  | nil => exact ⟨hamb, [], rfl, by simp [transactions], rfl⟩
  | cons credentials values ih =>
    rcases heq : writeTransaction q storage credentials s with ⟨r, s₁⟩
    obtain ⟨hamb₁, -, took, hok, hvalue⟩ := writeTransaction_step hlaw credentials heq hamb
    obtain ⟨hamb₂, others, hlen, hflags, hlast⟩ := ih s₁ hamb₁
    simp only [transactions, heq]
    refine ⟨hamb₂, took :: others, congrArg Nat.succ hlen, ?_, ?_⟩
    · intro i hi
      cases i with
      | zero => exact congrArg some (hok (Option.some.inj hi))
      | succ i => exact hflags i hi
    · rw [hlast, hvalue]
      rfl

/-- **The credentials survive interruption**, in any history of transactions on two
invalid slots.  A load returns the value of the last transaction that took effect, and a
transaction that succeeded did; after a clear that succeeded a load only returns
credentials of a later transaction; the generation that counts never goes down; a
commit record that is not complete is not valid. -/
theorem credentials_survive (hlaw : FlashLaw q storage memory)
    (hvalid : credentialsStorageIsValid storage = true) {s₀ s : σ}
    (h₀ : ∀ i, slotAt q storage.slotOffsets (memory s₀) i = none)
    (values : List (Option Credentials)) {returned : List (Option Status)}
    (hrun : transactions q storage values s₀ = (returned, s)) :
    (∃ took : List Bool, took.length = values.length ∧
      (∀ i : ℕ, returned[i]? = some (some .ok) → took[i]? = some true) ∧
      (∀ r s', credentialsLoad q storage s = (some r, s') → r = (.errIo, credentialsZero) ∨
        r = loadedValue (TwoSlot.lastEffective none (values.zip took))) ∧
      (ReadLaw False storage memory → ∃ s', credentialsLoad q storage s
        = (some (loadedValue (TwoSlot.lastEffective none (values.zip took))), s'))) ∧
    (∀ k : ℕ, values[k]? = some none → returned[k]? = some (some .ok) →
      ∀ credentials s', credentialsLoad q storage s = (some (.ok, credentials), s') →
        ∃ j : ℕ, k < j ∧ values[j]? = some (some credentials)) ∧
    (∀ value, TwoSlot.generation (slotsOf q storage.slotOffsets (memory s)) ≤
      TwoSlot.generation
        (slotsOf q storage.slotOffsets (memory (writeTransaction q storage value s).2))) ∧
    ∀ generation tombstone payload page, Partly (buildCommitRecord generation) page →
      page ≠ buildCommitRecord generation →
      slotInfo q (buildDataRecord generation tombstone payload) page = none := by
  have hfirst : TwoSlot.latest (slotsOf q storage.slotOffsets (memory s₀)) = .nowhere := by
    rw [TwoSlot.latest, slotsOf, slotsOf, h₀, h₀]
    rfl
  have hunset : TwoSlot.value none (slotsOf q storage.slotOffsets (memory s₀)) = none := by
    rw [TwoSlot.value, TwoSlot.newest, hfirst]
    rfl
  obtain ⟨hamb, took, hlen, hflags, hvalue⟩ :=
    transactions_value hlaw values s₀ (by rw [hfirst]; simp)
  rw [hrun] at hamb hflags hvalue
  rw [hunset] at hvalue
  have hload : ∀ r s', credentialsLoad q storage s = (some r, s') → r = (.errIo, credentialsZero) ∨
      r = loadedValue (TwoSlot.lastEffective none (values.zip took)) := by
    intro r s' heq
    rw [← hvalue]
    exact ((credentialsLoad_spec hlaw.read hvalid hamb s rfl).1 r s' heq).imp And.right id
  refine ⟨⟨took, hlen, hflags, hload, ?_⟩, ?_, ?_, ?_⟩
  · intro hreads
    obtain ⟨hret, hcrash⟩ := credentialsLoad_spec hreads hvalid hamb s rfl
    rcases heq : credentialsLoad q storage s with ⟨_ | r, s'⟩
    · exact (hcrash s' heq).elim
    · rcases hret r s' heq with ⟨hno, -⟩ | rfl
      · exact hno.elim
      · exact ⟨s', by rw [← hvalue]⟩
  · intro k hk hok credentials s' heq
    have hlast : TwoSlot.lastEffective none (values.zip took) = some credentials := by
      rcases hload _ s' heq with hio | hval
      · cases hio
      · cases hl : TwoSlot.lastEffective none (values.zip took) <;> simp_all [loadedValue]
    have hcleared : (values.zip took)[k]? = some (none, true) :=
      List.getElem?_zip_eq_some.mpr ⟨hk, hflags k hok⟩
    rcases TwoSlot.lastEffective_after none hcleared with hnone | ⟨j, hlt, hj⟩
    · rw [hlast] at hnone
      simp at hnone
    · rw [hlast] at hj
      exact ⟨j, hlt, (List.getElem?_zip_eq_some.mp hj).1⟩
  · intro value
    rcases heq : writeTransaction q storage value s with ⟨r, s'⟩
    exact (writeTransaction_step hlaw value heq hamb).2.1
  · intro generation tombstone payload page hpage hne
    cases hdata : dataRecordIsValid q (buildDataRecord generation tombstone payload) with
    | none => rw [slotInfo, hdata]
    | some info =>
      have hgen : info.generation = generation := by
        rw [dataRecordIsValid_generation q hdata, buildDataRecord_generation]
      exact (slotInfo_partly hdata hgen hpage).resolve_right fun h => hne h.1

end Flash

/-- Flash that loses power at its fourth program, six octets into the page. -/
structure SampleFlash where
  memory : Memory
  programs : ℕ

def sampleFlashStorage : CredentialsStorage SampleFlash where
  ops :=
    { read := fun offset size flash => (some (.ok, flash.memory.read offset size), flash)
      erase := fun offset size flash => (some .ok, { flash with
        memory := fun a => if offset ≤ a ∧ a < offset + size then 0xff#8 else flash.memory a })
      program := fun offset source flash =>
        let reached := if flash.programs = 3 then 6 else source.length
        (if flash.programs = 3 then none else some .ok,
          ⟨fun a => if offset ≤ a ∧ a < offset + min reached source.length then
            flash.memory a &&& octetAt source (a - offset) else flash.memory a,
            flash.programs + 1⟩) }
  slotOffsets i := if i then credentialsSectorSize else 0

def sampleCredentials : Credentials :=
  ⟨[0x61#8], [0x62#8], [0x63#8], 443#16, List.Vector.replicate 32 1#8⟩

/-- A decoder that knows one input. -/
def sampleCredentialsQcbor : Qcbor ℕ where
  decodeInit _ := 0
  getNext n := ([⟨.map 6, .none, 0⟩, ⟨.int64 1, .int64 1, 1⟩, ⟨.bytes [0x61#8], .int64 2, 1⟩,
    ⟨.bytes [0x62#8], .int64 3, 1⟩, ⟨.text [0x63#8], .int64 4, 1⟩, ⟨.int64 443, .int64 5, 1⟩,
    ⟨.bytes (List.replicate 32 1#8), .int64 6, 1⟩] : List QcborItem)[n]?.map
      fun item => (item, n + 1)
  finish _ := true

theorem sampleFlashStorage_reads (mayFail : Prop) :
    ReadLaw mayFail sampleFlashStorage SampleFlash.memory := by
  rintro m offset size flash rfl
  refine ⟨?_, ?_⟩
  · rintro r flash' ⟨⟩
    exact ⟨.inr rfl, rfl⟩
  · rintro flash' ⟨⟩

theorem sampleFlashStorage_law :
    FlashLaw sampleCredentialsQcbor sampleFlashStorage SampleFlash.memory where
  read := sampleFlashStorage_reads True
  erase := by
    rintro m slot flash rfl
    refine ⟨?_, ?_⟩
    · rintro status flash' ⟨⟩
      refine .inl ⟨rfl, ?_, ?_⟩
      · intro a ha
        exact if_neg (by omega)
      · intro i hi
        exact if_pos (by omega)
    · rintro flash' ⟨⟩
  program := by
    rintro m offset source flash rfl
    -- octets past the reached ones keep all their bits
    have hprogrammed : flash.memory.Programmed offset source
        (sampleFlashStorage.ops.program offset source flash).2.memory := by
      refine ⟨?_, ?_⟩
      · intro a ha
        exact if_neg (by omega)
      · intro i hi
        by_cases hreached : offset ≤ offset + i ∧ offset + i < offset +
            min (if flash.programs = 3 then 6 else source.length) source.length
        · refine ⟨0#8, (if_pos hreached).trans ?_⟩
          rw [Nat.add_sub_cancel_left, BitVec.or_zero]
        · refine ⟨BitVec.allOnes 8, (if_neg hreached).trans ?_⟩
          rw [BitVec.or_allOnes, BitVec.and_allOnes]
    refine ⟨?_, ?_⟩
    · intro status flash' heq
      obtain rfl := congrArg Prod.snd heq
      exact hprogrammed
    · intro flash' heq
      obtain rfl := congrArg Prod.snd heq
      exact hprogrammed

def sampleErased : SampleFlash := ⟨fun _ => 0xff#8, 0⟩

theorem slotAt_sampleErased (i : Bool) :
    slotAt sampleCredentialsQcbor sampleFlashStorage.slotOffsets sampleErased.memory i = none := by
  have hread : ∀ offset, sampleErased.memory.read offset commitSize
      = List.replicate commitSize 0xff#8 :=
    fun offset => Memory.Erased.read (m := sampleErased.memory) ⟨fun _ _ => rfl, fun _ _ => rfl⟩
      (Nat.le_refl _) (Nat.le_refl _)
  rw [slotAt, hread, slotInfo_erased]

/-- The credentials are stored; power is lost while the clear is committed. -/
theorem credentials_survive_sample : ∃ took : List Bool, took.length = 2 ∧
    ∃ flash, credentialsLoad sampleCredentialsQcbor sampleFlashStorage
        (transactions sampleCredentialsQcbor sampleFlashStorage [some sampleCredentials, none]
          sampleErased).2
      = (some (loadedValue (TwoSlot.lastEffective none
          ([some sampleCredentials, none].zip took))), flash) := by
  rcases hrun : transactions sampleCredentialsQcbor sampleFlashStorage
    [some sampleCredentials, none] sampleErased with ⟨returned, flash⟩
  obtain ⟨⟨took, hlen, -, -, hload⟩, -⟩ := credentials_survive sampleFlashStorage_law (by decide)
    slotAt_sampleErased [some sampleCredentials, none] hrun
  exact ⟨took, hlen, hload (sampleFlashStorage_reads False)⟩

end Pbns
