/-
The anti-rollback store (`src/core/anti_rollback.c`): the version of the last image,
kept by a TPM or in two NVRAM slots.

The functions are programs that may lose power at every access.  Nothing is assumed
about a slot write but that it touches one slot and leaves there the old record, the
new one, or octets that do not decode (`NvramLaw`); its status may be anything.

* `readNvram_spec`, `antiRollbackAdvance_spec` — what a call does to the slots;
* `nvram_never_goes_back` — histories of calls.
-/
import Pbns.Crash
import Pbns.Crc32c
import Pbns.FrameTypes
import Pbns.TwoSlot

namespace Pbns

open Octets Crash

/-! ### Records -/

def rollbackMagic : Octets := [0x50#8, 0x42#8, 0x52#8, 0x31#8]

/-- The loop of `write_u64_be`, from the last octet to the first. -/
def writeU64BeFrom : ℕ → BitVec 64 → Octets → Octets
  | 0, _, written => written
  | n + 1, value, written => writeU64BeFrom n (value >>> 8) (value.setWidth 8 :: written)

theorem writeU64BeFrom_eq (value : BitVec 64) : writeU64BeFrom 8 value [] = writeU64Be value := by
  simp only [writeU64BeFrom, writeU64Be, List.range, List.range.loop, List.map,
    ← BitVec.shiftRight_add]
  rfl

def encodeRecord (generation version : BitVec 64) : Octets :=
  let body := rollbackMagic ++ writeU64BeFrom 8 generation [] ++ writeU64BeFrom 8 version []
  body ++ writeU32Be (crc32c body)

/-- The generation and version of a record. -/
def decodeRecord (record : Octets) : Option (BitVec 64 × BitVec 64) :=
  if record.take 4 ≠ rollbackMagic ∨ readU32Be (record.drop 20) ≠ crc32c (record.take 20) then none
  else
    let generation := readU64Be (record.drop 4)
    let version := readU64Be (record.drop 12)
    if 0#64 < generation ∧ 0#64 < version then some (generation, version) else none

theorem decodeRecord_encodeRecord {generation version : BitVec 64} (hg : 0#64 < generation)
    (hv : 0#64 < version) :
    decodeRecord (encodeRecord generation version) = some (generation, version) := by
  have hbody : (rollbackMagic ++ writeU64Be generation ++ writeU64Be version).length = 20 := rfl
  have htail : (rollbackMagic ++ writeU64Be generation).length = 12 := rfl
  simp only [decodeRecord, encodeRecord, writeU64BeFrom_eq]
  rw [List.drop_left' hbody, readU32Be_self, List.take_left' hbody]
  rw [if_neg (by simp [rollbackMagic]),
    show ((rollbackMagic ++ writeU64Be generation ++ writeU64Be version ++
        writeU32Be (crc32c (rollbackMagic ++ writeU64Be generation ++ writeU64Be version))).drop 4)
      = writeU64Be generation ++ (writeU64Be version ++
        writeU32Be (crc32c (rollbackMagic ++ writeU64Be generation ++ writeU64Be version))) by
      rw [List.append_assoc, List.append_assoc]; rfl,
    show ((rollbackMagic ++ writeU64Be generation ++ writeU64Be version ++
        writeU32Be (crc32c (rollbackMagic ++ writeU64Be generation ++ writeU64Be version))).drop 12)
      = writeU64Be version ++
        writeU32Be (crc32c (rollbackMagic ++ writeU64Be generation ++ writeU64Be version)) by
      rw [List.append_assoc, List.drop_left' htail],
    readU64Be_writeU64Be, readU64Be_writeU64Be, if_pos ⟨hg, hv⟩]

theorem decodeRecord_pos {record : Octets} {generation version : BitVec 64}
    (h : decodeRecord record = some (generation, version)) : 0#64 < generation ∧ 0#64 < version := by
  simp only [decodeRecord] at h
  split_ifs at h with h1 h2
  cases h
  exact h2

/-! ### The calls -/

inductive Assurance
  | invalid
  | tpm
  | nvramReduced
  deriving DecidableEq

/-- `pbns_anti_rollback_state`; no active slot is `PBNS_ANTI_ROLLBACK_NO_SLOT`. -/
structure AntiRollbackState where
  version : BitVec 64
  generation : BitVec 64
  activeSlot : Option Bool
  assurance : Assurance
  deriving DecidableEq

def antiRollbackZero : AntiRollbackState := ⟨0#64, 0#64, some false, .invalid⟩

structure TpmOps (σ : Type) where
  read : Prog σ (Status × BitVec 64)
  advance : BitVec 64 → BitVec 64 → Octets → Prog σ Status

/-- The slot functions; a slot that is not present is read as `none`. -/
structure SlotOps (σ : Type) where
  read : Bool → Prog σ (Status × Option Octets)
  write : Bool → Octets → Prog σ Status

/-- `pbns_anti_rollback` with the functions of its assurance. -/
inductive AntiRollback (σ : Type)
  | tpm (ops : TpmOps σ)
  | nvram (ops : SlotOps σ)

def authorizationMaxSize : ℕ := 4096

/-- The state two decoded slots stand for. -/
def nvramState (first second : Option (BitVec 64 × BitVec 64)) : Status × AntiRollbackState :=
  match first, second with
  | none, none => (.ok, ⟨0#64, 0#64, none, .nvramReduced⟩)
  | some (generation, version), none => (.ok, ⟨version, generation, some false, .nvramReduced⟩)
  | none, some (generation, version) => (.ok, ⟨version, generation, some true, .nvramReduced⟩)
  | some (generation, version), some (generation', version') =>
    if generation = generation' then (.errAmbiguous, ⟨0#64, 0#64, none, .nvramReduced⟩)
    else if generation < generation' then (.ok, ⟨version', generation', some true, .nvramReduced⟩)
    else (.ok, ⟨version, generation, some false, .nvramReduced⟩)

section Calls

variable {σ : Type}

/-- `read_nvram`. -/
def readNvram (ops : SlotOps σ) : Prog σ (Status × AntiRollbackState) := do
  let first ← ops.read false
  if first.1 ≠ .ok then return (first.1, antiRollbackZero)
  let second ← ops.read true
  if second.1 ≠ .ok then return (second.1, antiRollbackZero)
  return nvramState (first.2.bind decodeRecord) (second.2.bind decodeRecord)

/-- `pbns_anti_rollback_read`. -/
def antiRollbackRead : AntiRollback σ → Prog σ (Status × AntiRollbackState)
  | .tpm ops => do
    let (status, version) ← ops.read
    if status ≠ .ok then return (status, antiRollbackZero)
    return (.ok, ⟨version, 0#64, none, .tpm⟩)
  | .nvram ops => readNvram ops

/-- The middle of `pbns_anti_rollback_advance`: the new version is written. -/
def antiRollbackWrite (controller : AntiRollback σ) (current : AntiRollbackState)
    (targetVersion : BitVec 64) (authorization : Octets) : Prog σ Status :=
  match controller with
  | .tpm ops =>
    if authorization.length = 0 then return .errArgument
    else ops.advance current.version targetVersion authorization
  | .nvram ops =>
    if authorization.length ≠ 0 then return .errArgument
    else if current.generation = BitVec.allOnes 64 then return .errLimit
    else
      let inactive := current.activeSlot.elim false (!·)
      ops.write inactive (encodeRecord (current.generation + 1#64) targetVersion)

/-- The version and, in NVRAM, the generation are the ones written. -/
def AntiRollback.verifies (controller : AntiRollback σ) (current verified : AntiRollbackState)
    (targetVersion : BitVec 64) : Bool :=
  verified.version = targetVersion &&
    match controller with
    | .tpm _ => true
    | .nvram _ => verified.generation = current.generation + 1#64

/-- `pbns_anti_rollback_advance`. -/
def antiRollbackAdvance (controller : AntiRollback σ) (targetVersion : BitVec 64)
    (authorization : Octets) : Prog σ (Status × AntiRollbackState) := do
  if targetVersion = 0#64 ∨ authorizationMaxSize < authorization.length then
    return (.errArgument, antiRollbackZero)
  let current ← antiRollbackRead controller
  if current.1 ≠ .ok then return (current.1, antiRollbackZero)
  if targetVersion ≤ current.2.version then return (.errReplay, antiRollbackZero)
  let written ← antiRollbackWrite controller current.2 targetVersion authorization
  if written ≠ .ok then return (written, antiRollbackZero)
  let verified ← antiRollbackRead controller
  if verified.1 ≠ .ok then return (verified.1, antiRollbackZero)
  if controller.verifies current.2 verified.2 targetVersion = false then
    return (.errState, antiRollbackZero)
  return (.ok, verified.2)

end Calls

/-! ### The slots -/

/-- What the two slots hold. -/
abbrev Nvram := Bool → Option Octets

/-- The decoded slots, with the version as value. -/
def Nvram.slots (held : Nvram) : TwoSlot.Slots ℕ := fun i =>
  ((held i).bind decodeRecord).map fun (generation, version) => ⟨generation.toNat, version.toNat⟩

/-- What a read of the slots gives. -/
def Nvram.state (held : Nvram) : Status × AntiRollbackState :=
  nvramState ((held false).bind decodeRecord) ((held true).bind decodeRecord)

/-- The version that can be read, zero if there is none. -/
def Nvram.version (held : Nvram) : BitVec 64 := held.state.2.version

/-- What a write of `record` to slot `i` may leave: the old record, the new one, or
octets that do not decode. -/
def Nvram.Written (held : Nvram) (i : Bool) (record : Octets) (held' : Nvram) : Prop :=
  ∃ x, held' = Function.update held i x ∧
    (x = held i ∨ x = some record ∨ ∃ torn, x = some torn ∧ decodeRecord torn = none)

/-- Slot functions on slots whose contents are `held`: a read returns what the slot
holds, a write may fail, lie or be torn. -/
structure NvramLaw {σ : Type} (ops : SlotOps σ) (held : σ → Nvram) : Prop where
  read : ∀ i h, Triple (held · = h) (ops.read i) (fun r s => r = (.ok, h i) ∧ held s = h)
    (held · = h)
  write : ∀ i record h, Triple (held · = h) (ops.write i record)
    (fun _ s => h.Written i record (held s)) (fun s => h.Written i record (held s))

/-- The state is the entry that counts. -/
theorem Nvram.state_cases (held : Nvram) :
    (TwoSlot.latest held.slots = .nowhere ∧
      held.state = (.ok, ⟨0#64, 0#64, none, .nvramReduced⟩)) ∨
    (TwoSlot.latest held.slots = .ambiguous ∧ held.state.1 = .errAmbiguous ∧
      held.version = 0#64) ∨
    ∃ i generation version, TwoSlot.latest held.slots = .slot i ∧
      held.slots i = some ⟨generation.toNat, version.toNat⟩ ∧ 0#64 < version ∧
      held.state = (.ok, ⟨version, generation, some i, .nvramReduced⟩) := by
  have hpos : ∀ i generation version, (held i).bind decodeRecord = some (generation, version) →
      0#64 < version := by
    intro i generation version h
    obtain ⟨record, -, hdec⟩ := Option.bind_eq_some_iff.mp h
    exact (decodeRecord_pos hdec).2
  rcases h0 : (held false).bind decodeRecord with _ | ⟨g, v⟩ <;>
    rcases h1 : (held true).bind decodeRecord with _ | ⟨g', v'⟩
  · left
    simp [TwoSlot.latest, Nvram.slots, Nvram.state, nvramState, h0, h1]
  · refine .inr (.inr ⟨true, g', v', ?_, ?_, hpos _ _ _ h1, ?_⟩) <;>
      simp [TwoSlot.latest, Nvram.slots, Nvram.state, nvramState, h0, h1]
  · refine .inr (.inr ⟨false, g, v, ?_, ?_, hpos _ _ _ h0, ?_⟩) <;>
      simp [TwoSlot.latest, Nvram.slots, Nvram.state, nvramState, h0, h1]
  · rcases Nat.lt_trichotomy g.toNat g'.toNat with hlt | heq | hgt
    · have hne : ¬ g = g' := fun h => by rw [h] at hlt; omega
      refine .inr (.inr ⟨true, g', v', ?_, ?_, hpos _ _ _ h1, ?_⟩)
      · simp only [TwoSlot.latest, Nvram.slots, h0, h1, Option.map_some]
        rw [if_neg (by omega), if_neg (by omega)]
      · simp [Nvram.slots, h1]
      · simp only [Nvram.state, nvramState, h0, h1]
        rw [if_neg hne, if_pos (BitVec.lt_def.mpr hlt)]
    · have hsame : g = g' := BitVec.eq_of_toNat_eq heq
      refine .inr (.inl ?_)
      simp [TwoSlot.latest, Nvram.slots, Nvram.version, Nvram.state, nvramState, h0, h1, hsame]
    · have hne : ¬ g = g' := fun h => by rw [h] at hgt; omega
      refine .inr (.inr ⟨false, g, v, ?_, ?_, hpos _ _ _ h0, ?_⟩)
      · simp only [TwoSlot.latest, Nvram.slots, h0, h1, Option.map_some]
        rw [if_neg (by omega), if_pos hgt]
      · simp [Nvram.slots, h0]
      · simp only [Nvram.state, nvramState, h0, h1]
        rw [if_neg hne, if_neg (by rw [BitVec.lt_def]; omega)]

/-- The version that can be read, as the slots have it. -/
theorem Nvram.version_eq (held : Nvram) :
    held.version.toNat = (TwoSlot.newest held.slots).elim 0 TwoSlot.Entry.value := by
  rcases held.state_cases with ⟨hl, hstate⟩ | ⟨hl, -, hv⟩ | ⟨i, g, v, hl, hslot, -, hstate⟩
  · rw [Nvram.version, hstate, TwoSlot.newest, hl]
    rfl
  · rw [hv, TwoSlot.newest, hl]
    rfl
  · rw [Nvram.version, hstate, TwoSlot.newest_of_slot hl, hslot]
    rfl

/-- A call changed nothing, or wrote a version above the current one. -/
def Nvram.Moved (held : Nvram) (targetVersion : BitVec 64) (held' : Nvram) : Prop :=
  held' = held ∨
    TwoSlot.latest held.slots ≠ .ambiguous ∧ held.version < targetVersion ∧
      ∃ x, TwoSlot.Left held.slots targetVersion.toNat x ∧
        held'.slots = TwoSlot.replace held.slots x

section Spec

variable {σ : Type} {ops : SlotOps σ} {held : σ → Nvram}

/-- **A read** returns the state of the slots and leaves them alone. -/
theorem readNvram_spec (hlaw : NvramLaw ops held) (h : Nvram) :
    Triple (held · = h) (readNvram ops) (fun r s => r = h.state ∧ held s = h) (held · = h) := by
  refine Triple.bind (hlaw.read false h) ?_
  intro first
  refine Triple.assume (φ := first = (.ok, h false)) (fun _ hs => hs.1) ?_
  rintro rfl
  refine Triple.ite (fun hne => absurd rfl hne) (fun _ => ?_)
  refine Triple.bind ((hlaw.read true h).conseq (fun _ hs => hs.2) (fun _ _ hs => hs)
    (fun _ hs => hs)) ?_
  intro second
  refine Triple.assume (φ := second = (.ok, h true)) (fun _ hs => hs.1) ?_
  rintro rfl
  refine Triple.ite (fun hne => absurd rfl hne) (fun _ => ?_)
  exact Triple.pure (fun _ hs => ⟨rfl, hs.2⟩)

/-- A write to the inactive slot, as the decoded slots see it. -/
theorem Nvram.Written.moved {h h' : Nvram} {targetVersion : BitVec 64} {state : AntiRollbackState}
    (hstate : h.state = (.ok, state)) (hlt : state.version < targetVersion)
    (hgen : state.generation ≠ BitVec.allOnes 64)
    (hw : h.Written (state.activeSlot.elim false (!·))
      (encodeRecord (state.generation + 1#64) targetVersion) h') :
    TwoSlot.latest h.slots ≠ .ambiguous ∧ ∃ x, TwoSlot.Left h.slots targetVersion.toNat x ∧
      h'.slots = TwoSlot.replace h.slots x := by
  obtain ⟨y, rfl, hy⟩ := hw
  have hnat := toNat_next hgen
  have hg : 0#64 < state.generation + 1#64 := by
    rw [BitVec.lt_def, hnat]
    exact Nat.succ_pos _
  have hv : 0#64 < targetVersion := by
    rw [BitVec.lt_def] at hlt ⊢
    exact Nat.lt_of_le_of_lt (Nat.zero_le _) hlt
  -- the slot written and the generation are the ones the slots ask for
  have hfacts : TwoSlot.latest h.slots ≠ .ambiguous ∧
      TwoSlot.target h.slots = state.activeSlot.elim false (!·) ∧
      TwoSlot.generation h.slots = state.generation.toNat := by
    rcases h.state_cases with ⟨hl, hs⟩ | ⟨hl, hs, -⟩ | ⟨i, g, v, hl, hslot, -, hs⟩
    · obtain rfl := (Prod.mk.inj (hstate.symm.trans hs)).2
      refine ⟨by simp [hl], by simp [TwoSlot.target, hl], ?_⟩
      simp [TwoSlot.generation, TwoSlot.newest, hl]
    · rw [hstate] at hs
      simp at hs
    · obtain rfl := (Prod.mk.inj (hstate.symm.trans hs)).2
      refine ⟨by simp [hl], by simp [TwoSlot.target, hl], ?_⟩
      rw [TwoSlot.generation_of_newest ((TwoSlot.newest_of_slot hl).trans hslot)]
  obtain ⟨hamb, htarget, hgeneration⟩ := hfacts
  refine ⟨hamb, (y.bind decodeRecord).map fun (generation, version) =>
    ⟨generation.toNat, version.toNat⟩, ?_, ?_⟩
  · rw [TwoSlot.Left, htarget]
    rcases hy with rfl | rfl | ⟨torn, rfl, htorn⟩
    · exact .inl rfl
    · right
      right
      rw [Option.bind_some, decodeRecord_encodeRecord hg hv, hgeneration, ← hnat]
      rfl
    · right
      left
      rw [Option.bind_some, htorn]
      rfl
  · rw [TwoSlot.replace, htarget]
    funext i
    by_cases hi : i = state.activeSlot.elim false (!·)
    · subst hi
      simp [Nvram.slots]
    · simp [Nvram.slots, Function.update_of_ne hi]

/-- The write of an advance. -/
theorem antiRollbackWrite_spec (hlaw : NvramLaw ops held) {h : Nvram} {state : AntiRollbackState}
    (hstate : h.state = (.ok, state)) {targetVersion : BitVec 64}
    (hlt : state.version < targetVersion) (authorization : Octets) :
    Triple (held · = h) (antiRollbackWrite (.nvram ops) state targetVersion authorization)
      (fun r s => h.Moved targetVersion (held s) ∧
        (r = .ok → state.generation ≠ BitVec.allOnes 64))
      (fun s => h.Moved targetVersion (held s)) := by
  have hversion : h.version < targetVersion := by rwa [Nvram.version, hstate]
  refine Triple.ite (fun _ => Triple.pure fun s hs => ⟨.inl hs, by simp⟩) (fun _ => ?_)
  refine Triple.ite (fun _ => Triple.pure fun s hs => ⟨.inl hs, by simp⟩) (fun hgen => ?_)
  have hmoved : ∀ h', h.Written (state.activeSlot.elim false (!·))
      (encodeRecord (state.generation + 1#64) targetVersion) h' → h.Moved targetVersion h' := by
    intro h' hw
    obtain ⟨hamb, x, hx, hx'⟩ := hw.moved hstate hlt hgen
    exact .inr ⟨hamb, hversion, x, hx, hx'⟩
  exact (hlaw.write _ _ h).conseq (fun _ hs => hs) (fun _ s hw => ⟨hmoved _ hw, fun _ => hgen⟩)
    (fun s hw => hmoved _ hw)

/-- **An advance** moves the slots by at most one version; if it succeeds, the target
and the next generation are what they read. -/
theorem antiRollbackAdvance_spec (hlaw : NvramLaw ops held) (h : Nvram)
    (targetVersion : BitVec 64) (authorization : Octets) :
    Triple (held · = h) (antiRollbackAdvance (.nvram ops) targetVersion authorization)
      (fun r s => h.Moved targetVersion (held s) ∧ (r.1 = .ok →
        (held s).state = (.ok, r.2) ∧ r.2.version = targetVersion ∧
        r.2.generation.toNat = h.state.2.generation.toNat + 1))
      (fun s => h.Moved targetVersion (held s)) := by
  refine Triple.ite (fun _ => Triple.pure fun s hs => ⟨.inl hs, by simp⟩) (fun _ => ?_)
  refine Triple.bind ((readNvram_spec hlaw h).conseq (fun _ hs => hs) (fun _ _ hs => hs)
    (fun _ hs => .inl hs)) ?_
  intro current
  refine Triple.assume (φ := current = h.state) (fun _ hs => hs.1) ?_
  rintro rfl
  refine Triple.ite (fun hne => Triple.pure fun s hs => ⟨.inl hs.2, fun hok => absurd hok hne⟩)
    (fun hok => ?_)
  refine Triple.ite (fun _ => Triple.pure fun s hs => ⟨.inl hs.2, by simp⟩) (fun hgt => ?_)
  have hlt : h.state.2.version < targetVersion := BitVec.not_le.mp hgt
  have hstate : h.state = (.ok, h.state.2) := Prod.ext (not_not.mp hok) rfl
  refine Triple.bind ((antiRollbackWrite_spec hlaw hstate hlt authorization).conseq
    (fun _ hs => hs.2) (fun _ _ hs => hs) (fun _ hs => hs)) ?_
  intro written
  refine Triple.ite (fun hne => Triple.pure fun s hs => ⟨hs.1, fun hok => absurd hok hne⟩)
    (fun hwritten => ?_)
  -- the slots are read back
  refine Triple.named ?_
  intro s₁ hs₁
  have hgen := hs₁.2 (not_not.mp hwritten)
  refine Triple.bind ((readNvram_spec hlaw (held s₁)).conseq (by rintro s rfl; rfl)
    (fun _ _ hs => hs) (fun s hs => hs ▸ hs₁.1)) ?_
  intro verified
  refine Triple.ite (fun hne => Triple.pure fun s hs => ⟨hs.2 ▸ hs₁.1, fun hok => absurd hok hne⟩)
    (fun hverified => ?_)
  refine Triple.ite (fun _ => Triple.pure fun s hs => ⟨hs.2 ▸ hs₁.1, by simp⟩) (fun hsame => ?_)
  refine Triple.pure ?_
  rintro s ⟨rfl, hs⟩
  simp only [AntiRollback.verifies, Bool.not_eq_false, Bool.and_eq_true, decide_eq_true_eq] at hsame
  refine ⟨hs ▸ hs₁.1, fun _ => ⟨?_, hsame.1, ?_⟩⟩
  · rw [hs]
    exact Prod.ext (not_not.mp hverified) rfl
  · rw [hsame.2, toNat_next hgen]

end Spec

/-! ### What a call leaves -/

namespace Nvram.Moved

variable {h h' : Nvram} {targetVersion : BitVec 64}

/-- The version stays or becomes the target. -/
theorem version_cases (hm : h.Moved targetVersion h') :
    h'.version = h.version ∨ h.version < targetVersion ∧ h'.version = targetVersion := by
  rcases hm with rfl | ⟨hamb, hlt, x, hx, hslots⟩
  · exact .inl rfl
  · have hkeep : x = h.slots (TwoSlot.target h.slots) ∨ x = none → h'.version = h.version := by
      intro hx'
      apply BitVec.eq_of_toNat_eq
      rw [Nvram.version_eq, Nvram.version_eq, hslots, (TwoSlot.newest_keep hamb hx').2]
    rcases hx with hx | hx | rfl
    · exact .inl (hkeep (.inl hx))
    · exact .inl (hkeep (.inr hx))
    · refine .inr ⟨hlt, BitVec.eq_of_toNat_eq ?_⟩
      rw [Nvram.version_eq, hslots, (TwoSlot.newest_new hamb _).2]
      rfl

theorem version_le (hm : h.Moved targetVersion h') : h.version ≤ h'.version := by
  rcases hm.version_cases with heq | ⟨hlt, heq⟩
  · rw [heq]
    exact BitVec.le_refl _
  · rw [heq]
    exact BitVec.le_of_lt hlt

/-- Sound slots stay sound. -/
theorem sound (hm : h.Moved targetVersion h') (hs : TwoSlot.Sound (· < ·) h.slots) :
    TwoSlot.Sound (· < ·) h'.slots := by
  rcases hm with rfl | ⟨-, hlt, x, hx, hslots⟩
  · exact hs
  · rw [hslots]
    refine hs.replace ?_ hx
    intro e he
    rw [BitVec.lt_def, Nvram.version_eq, he] at hlt
    exact hlt

end Nvram.Moved

/-- Unless the slots are ambiguous they can be read. -/
theorem Nvram.state_ok {h : Nvram} (hs : TwoSlot.latest h.slots ≠ .ambiguous) :
    h.state.1 = .ok := by
  rcases h.state_cases with ⟨-, hstate⟩ | ⟨hl, -⟩ | ⟨i, g, v, -, -, -, hstate⟩
  · rw [hstate]
  · exact absurd hl hs
  · rw [hstate]

/-! ### Histories -/

inductive NvramCall
  | read
  | advance (targetVersion : BitVec 64) (authorization : Octets)

section Histories

variable {σ : Type} {ops : SlotOps σ} {held : σ → Nvram}

def NvramCall.run (ops : SlotOps σ) : NvramCall → Prog σ (Status × AntiRollbackState)
  | .read => antiRollbackRead (.nvram ops)
  | .advance targetVersion authorization =>
    antiRollbackAdvance (.nvram ops) targetVersion authorization

/-- What the calls return, one after the other, and the state they leave.  A call that
loses power returns nothing. -/
def nvramHistory (ops : SlotOps σ) :
    List NvramCall → σ → List (Option (Status × AntiRollbackState)) × σ
  | [], s => ([], s)
  | call :: calls, s =>
    let first := call.run ops s
    let rest := nvramHistory ops calls first.2
    (first.1 :: rest.1, rest.2)

/-- One call. -/
theorem NvramCall.run_spec (hlaw : NvramLaw ops held) (call : NvramCall) (h : Nvram) :
    Triple (held · = h) (call.run ops)
      (fun r s => (∃ t, h.Moved t (held s)) ∧ (r.1 = .ok → r.2.version = (held s).version))
      (fun s => ∃ t, h.Moved t (held s)) := by
  cases call with
  | read =>
    refine (readNvram_spec hlaw h).conseq (fun _ hs => hs) ?_ (fun _ hs => ⟨0#64, .inl hs⟩)
    rintro r s ⟨rfl, hs⟩
    exact ⟨⟨0#64, .inl hs⟩, fun _ => by rw [hs]; rfl⟩
  | advance t authorization =>
    refine (antiRollbackAdvance_spec hlaw h t authorization).conseq (fun _ hs => hs) ?_
      (fun _ hs => ⟨t, hs⟩)
    rintro r s ⟨hmoved, hok⟩
    refine ⟨⟨t, hmoved⟩, fun h1 => ?_⟩
    rw [Nvram.version, (hok h1).1]

/-- **A history of calls** keeps the slots sound, and no version it returned is above the
one it leaves. -/
theorem nvramHistory_sound (hlaw : NvramLaw ops held) (calls : List NvramCall) (s : σ)
    (hs : TwoSlot.Sound (· < ·) (held s).slots) :
    TwoSlot.Sound (· < ·) (held (nvramHistory ops calls s).2).slots ∧
      (held s).version ≤ (held (nvramHistory ops calls s).2).version ∧
      ∀ state, some (.ok, state) ∈ (nvramHistory ops calls s).1 →
        state.version ≤ (held (nvramHistory ops calls s).2).version := by
  induction calls generalizing s with
  | nil => exact ⟨hs, BitVec.le_refl _, by simp [nvramHistory]⟩
  | cons call calls ih =>
    obtain ⟨hret, hcrash⟩ := call.run_spec hlaw (held s) s rfl
    rcases heq : call.run ops s with ⟨r, s₁⟩
    have hfirst : (∃ t, (held s).Moved t (held s₁)) ∧
        ∀ state, r = some (.ok, state) → state.version = (held s₁).version := by
      cases r with
      | none => exact ⟨hcrash s₁ heq, by simp⟩
      | some r =>
        obtain ⟨hmoved, hok⟩ := hret r s₁ heq
        refine ⟨hmoved, ?_⟩
        rintro state ⟨⟩
        exact hok rfl
    obtain ⟨⟨t, hmoved⟩, hversion⟩ := hfirst
    obtain ⟨hsound, hle, hall⟩ := ih s₁ (hmoved.sound hs)
    simp only [nvramHistory, heq]
    refine ⟨hsound, BitVec.le_trans hmoved.version_le hle, ?_⟩
    intro state hmem
    rcases List.mem_cons.mp hmem with hmem | hmem
    · rw [hversion state hmem.symm]
      exact hle
    · exact hall state hmem

/-- **NVRAM versions never go back**, for any calls on two absent slots: whenever both
slots decode they hold consecutive generations with the versions in the same order, the
next read succeeds and is not below a version returned before, the next advance reaches
its target and the next generation if it succeeds and otherwise leaves the old version or
the target. -/
theorem nvram_never_goes_back (hlaw : NvramLaw ops held) {s₀ s : σ} (h₀ : held s₀ = fun _ => none)
    (calls : List NvramCall) {returned : List (Option (Status × AntiRollbackState))}
    (hrun : nvramHistory ops calls s₀ = (returned, s)) :
    (∀ i g v g' v', (held s i).bind decodeRecord = some (g, v) →
      (held s (!i)).bind decodeRecord = some (g', v') →
      (g'.toNat = g.toNat + 1 ∧ v < v') ∨ (g.toNat = g'.toNat + 1 ∧ v' < v)) ∧
    (∀ status state s', antiRollbackRead (.nvram ops) s = (some (status, state), s') →
      status = .ok ∧ ∀ earlier, some (.ok, earlier) ∈ returned → earlier.version ≤ state.version) ∧
    ∀ targetVersion authorization status state s',
      antiRollbackAdvance (.nvram ops) targetVersion authorization s
        = (some (status, state), s') →
      (status = .ok → state.version = targetVersion ∧
        state.generation.toNat = (held s).state.2.generation.toNat + 1 ∧
        (held s').state = (.ok, state)) ∧
      (status ≠ .ok → (held s').state.1 = .ok ∧
        ((held s').version = (held s).version ∨ (held s').version = targetVersion)) := by
  have hempty : TwoSlot.Sound (· < ·) (held s₀).slots := by
    rw [h₀]
    exact TwoSlot.Sound.empty
  obtain ⟨hsound, -, hreturned⟩ := nvramHistory_sound hlaw calls s₀ hempty
  rw [hrun] at hsound hreturned
  refine ⟨?_, ?_, ?_⟩
  · intro i g v g' v' h h'
    have hi : (held s).slots i = some ⟨g.toNat, v.toNat⟩ := by rw [Nvram.slots, h]; rfl
    have hi' : (held s).slots (!i) = some ⟨g'.toNat, v'.toNat⟩ := by rw [Nvram.slots, h']; rfl
    exact hsound i _ _ hi hi'
  · intro status state s' hread
    obtain ⟨heq, -⟩ := (readNvram_spec hlaw (held s) s rfl).1 _ _ hread
    obtain ⟨rfl, rfl⟩ := Prod.mk.inj heq
    exact ⟨Nvram.state_ok hsound.not_ambiguous, hreturned⟩
  · intro targetVersion authorization status state s' hadvance
    obtain ⟨hmoved, hok⟩ :=
      (antiRollbackAdvance_spec hlaw (held s) targetVersion authorization s rfl).1 _ _ hadvance
    refine ⟨?_, ?_⟩
    · intro hstatus
      obtain ⟨hstate, hversion, hgeneration⟩ := hok hstatus
      exact ⟨hversion, hgeneration, hstate⟩
    · intro _
      refine ⟨Nvram.state_ok (hmoved.sound hsound).not_ambiguous, ?_⟩
      exact hmoved.version_cases.imp id And.right

end Histories

/-- Slots of which the second tears every record of an even version. -/
def sampleSlots : SlotOps Nvram where
  read i := fun held => (some (.ok, held i), held)
  write i record := fun held =>
    if i = true ∧ record.getD 19 0#8 &&& 1#8 = 0#8 then
      (some .errIo, Function.update held i (some []))
    else (some .ok, Function.update held i (some record))

theorem sampleSlots_law : NvramLaw sampleSlots id := by
  refine ⟨?_, ?_⟩
  · rintro i h _ rfl
    refine ⟨?_, ?_⟩
    · rintro _ _ ⟨⟩
      exact ⟨rfl, rfl⟩
    · rintro _ ⟨⟩
  · rintro i record h _ rfl
    simp only [sampleSlots]
    split
    · refine ⟨?_, ?_⟩
      · rintro _ _ ⟨⟩
        exact ⟨some [], rfl, .inr (.inr ⟨[], rfl, by decide⟩)⟩
      · rintro _ ⟨⟩
    · refine ⟨?_, ?_⟩
      · rintro _ _ ⟨⟩
        exact ⟨some record, rfl, .inr (.inl rfl)⟩
      · rintro _ ⟨⟩

def sampleCalls : List NvramCall := [.advance 1#64 [], .advance 2#64 [], .advance 3#64 [], .read]

def sampleReturned : List (Option (Status × AntiRollbackState)) :=
  [some (.ok, ⟨1#64, 1#64, some false, .nvramReduced⟩), some (.errIo, antiRollbackZero),
    some (.ok, ⟨3#64, 2#64, some true, .nvramReduced⟩),
    some (.ok, ⟨3#64, 2#64, some true, .nvramReduced⟩)]

theorem nvram_never_goes_back_sample :
    (nvramHistory sampleSlots sampleCalls fun _ => none).1 = sampleReturned ∧
    ∀ status state s',
      antiRollbackRead (.nvram sampleSlots) (nvramHistory sampleSlots sampleCalls fun _ => none).2
        = (some (status, state), s') → 3#64 ≤ state.version := by
  have hreturned : (nvramHistory sampleSlots sampleCalls fun _ => none).1 = sampleReturned := by
    decide +kernel
  refine ⟨hreturned, ?_⟩
  rcases hrun : nvramHistory sampleSlots sampleCalls fun _ => none with ⟨returned, s⟩
  rw [hrun] at hreturned
  obtain ⟨-, hnext, -⟩ := nvram_never_goes_back sampleSlots_law rfl sampleCalls hrun
  intro status state s' hread
  refine (hnext status state s' hread).2 ⟨3#64, 2#64, some true, .nvramReduced⟩ ?_
  rw [show returned = sampleReturned from hreturned]
  simp [sampleReturned]

end Pbns
