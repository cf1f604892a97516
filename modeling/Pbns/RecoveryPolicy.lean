/-
Recovery version authorizations on the firmware side: the wire format
(`src/uefi/Library/PbnsAntiRollbackLib/PbnsRecoveryPolicyWire.c`) and the names, policies and
command hash the TPM code computes of one (`PbnsAntiRollbackTpm.c`).

The marshalling of the TPM structures, SHA-256 and the CBOR decoder are parameters.  A marshalled
structure is `none` where the library reports an error; a `TPM2B` structure is its area with the
length in front.

* `decode_canonical` — an accepted object is the encoding of the authorization it gives;
* `decode_rejected` — one that is refused leaves the authorization zero;
* `ValidAuthorization.operand_eq` — the operand of a valid authorization is its target version.
-/
import Pbns.CborItem
import Pbns.Credentials

namespace Pbns.Policy

open Octets Guard Cbor

/-! ### TPM constants -/

def algEcc : BitVec 16 := 0x0023#16
def algSha256 : BitVec 16 := 0x000b#16
def algNull : BitVec 16 := 0x0010#16
def algEcdsa : BitVec 16 := 0x0018#16
def eccNistP256 : BitVec 16 := 0x0003#16
def objectSignEncrypt : BitVec 32 := 0x00040000#32
def nvPolicyWrite : BitVec 32 := 0x00000008#32
def nvOwnerRead : BitVec 32 := 0x00020000#32
def nvNoDa : BitVec 32 := 0x02000000#32
def nvWritten : BitVec 32 := 0x20000000#32
def eoUnsignedLt : BitVec 16 := 0x0005#16
def ccNvWrite : BitVec 32 := 0x00000137#32
def ccPolicyNv : BitVec 32 := 0x00000149#32
def ccPolicyCpHash : BitVec 32 := 0x00000163#32
def ccPolicyAuthorize : BitVec 32 := 0x0000016a#32
def ccPolicyNvWritten : BitVec 32 := 0x0000018f#32

def rcSuccess : BitVec 32 := 0#32
def rcRetry : BitVec 32 := 0x00000922#32
def rcYielded : BitVec 32 := 0x00000908#32
def rcTesting : BitVec 32 := 0x0000090a#32
def rcHandle : BitVec 32 := 0x0000008b#32

/-- `pbns_tpm_command_retryable` -/
def commandRetryable (rc : BitVec 32) : Bool := rc = rcRetry || rc = rcYielded || rc = rcTesting

/-- `tss_status` -/
def tssStatus (rc : BitVec 32) : Status :=
  if rc = rcSuccess then .ok else if commandRetryable rc then .errBusy else .errCrypto

theorem tssStatus_ne_ok {rc : BitVec 32} (h : rc ≠ rcSuccess) : tssStatus rc ≠ .ok := by
  unfold tssStatus
  rw [if_neg h]
  split <;> nofun

/-- `PBNS_TPM_RECOVERY_NV_INDEX` -/
def recoveryNvIndex : BitVec 32 := 0x01801000#32

def objectMaxSize : ℕ := 4096
def refMaxSize : ℕ := 64
def nameSize : ℕ := 34
/-- `sizeof(TPM2B_NAME.name)` -/
def nameMax : ℕ := 68
def marshalMax : ℕ := 512
def nvPublicMaxSize : ℕ := 128
def tpmPublicMaxSize : ℕ := 512
def tpmSignatureMaxSize : ℕ := 256
def transportMax : ℕ := 4096

/-! ### TPM structures -/

abbrev PolicyDigest := OctetArray 32

/-- `TPMS_NV_PUBLIC` -/
structure NvArea where
  nvIndex : BitVec 32
  nameAlg : BitVec 16
  attributes : BitVec 32
  authPolicy : Octets
  dataSize : BitVec 16
  deriving DecidableEq

/-- `TPM2B_NV_PUBLIC` -/
structure NvPublic where
  size : BitVec 16
  nvPublic : NvArea
  deriving DecidableEq

/-- `TPMS_ECC_PARMS`, the details of the schemes as far as they are looked at. -/
structure EccParms where
  symmetric : BitVec 16
  scheme : BitVec 16
  schemeHashAlg : BitVec 16
  curveId : BitVec 16
  kdf : BitVec 16
  deriving DecidableEq

/-- The unions `parameters` and `unique` of a public area. -/
inductive PublicDetail
  | ecc (parms : EccParms) (x y : Octets)
  | other (content : Octets)
  deriving DecidableEq

/-- `TPMT_PUBLIC` -/
structure PublicArea where
  type : BitVec 16
  nameAlg : BitVec 16
  objectAttributes : BitVec 32
  authPolicy : Octets
  detail : PublicDetail
  deriving DecidableEq

/-- `TPM2B_PUBLIC` -/
structure TpmPublic where
  size : BitVec 16
  publicArea : PublicArea
  deriving DecidableEq

/-- The union of a signature. -/
inductive SignatureDetail
  | ecdsa (hash : BitVec 16) (signatureR signatureS : Octets)
  | other (content : Octets)
  deriving DecidableEq

/-- `TPMT_SIGNATURE` -/
structure TpmSignature where
  sigAlg : BitVec 16
  detail : SignatureDetail
  deriving DecidableEq

/-- The TPM marshalling library, with SHA-256.  An unmarshalled value comes with the offset behind
it; preparing an `NV_Write` command gives a return code and leaves its parameters in a buffer. -/
structure Tss where
  sha256 : Octets → PolicyDigest
  marshalNv : NvArea → Option Octets
  marshalPublic : PublicArea → Option Octets
  marshalSignature : TpmSignature → Option Octets
  unmarshalNv : Octets → Option (NvPublic × ℕ)
  unmarshalPublic : Octets → Option (TpmPublic × ℕ)
  unmarshalSignature : Octets → Option (TpmSignature × ℕ)
  nvWritePrepare : BitVec 32 → Octets → BitVec 16 → BitVec 32
  nvWriteCpBuffer : BitVec 32 → Octets → BitVec 16 → Option Octets

def u16Be (v : BitVec 16) : Octets := [(v >>> 8).setWidth 8, v.setWidth 8]

/-- The contents of a `TPM2B` structure behind their length. -/
def sized (s : Octets) : Octets := u16Be (BitVec.ofNat 16 s.length) ++ s

/-! ### Authorizations -/

inductive Kind
  | invalid
  | initialization
  | update
  deriving DecidableEq

/-- `pbns_recovery_policy_authorization`; the sizes of the names and of the reference are the
lengths of the lists. -/
@[ext]
structure Authorization where
  kind : Kind
  nvIndex : BitVec 32
  nvPublic : NvPublic
  nvName : Octets
  targetVersion : BitVec 64
  operand : OctetArray 8
  offset : BitVec 16
  operation : BitVec 16
  cpHash : PolicyDigest
  approvedPolicy : PolicyDigest
  policyRef : Octets
  policyKeyPublic : TpmPublic
  policyKeyName : Octets
  signature : TpmSignature
  finalPolicy : PolicyDigest
  deriving DecidableEq

/-- `{0}` -/
def Authorization.zero : Authorization where
  kind := .invalid
  nvIndex := 0#32
  nvPublic := ⟨0#16, ⟨0#32, 0#16, 0#32, [], 0#16⟩⟩
  nvName := []
  targetVersion := 0#64
  operand := List.Vector.replicate 8 0#8
  offset := 0#16
  operation := 0#16
  cpHash := List.Vector.replicate 32 0#8
  approvedPolicy := List.Vector.replicate 32 0#8
  policyRef := []
  policyKeyPublic := ⟨0#16, ⟨0#16, 0#16, 0#32, [], .other []⟩⟩
  policyKeyName := []
  signature := ⟨0#16, .other []⟩
  finalPolicy := List.Vector.replicate 32 0#8

/-- `"PBNS-RECOVERY-POLICY-INIT-v1"` -/
def initializationDomain : Octets :=
  [0x50#8, 0x42#8, 0x4e#8, 0x53#8, 0x2d#8, 0x52#8, 0x45#8, 0x43#8, 0x4f#8, 0x56#8, 0x45#8, 0x52#8, 0x59#8,
    0x2d#8, 0x50#8, 0x4f#8, 0x4c#8, 0x49#8, 0x43#8, 0x59#8, 0x2d#8, 0x49#8, 0x4e#8, 0x49#8, 0x54#8,
    0x2d#8, 0x76#8, 0x31#8]

/-- `"PBNS-RECOVERY-POLICY-UPDATE-v1"` -/
def updateDomain : Octets :=
  [0x50#8, 0x42#8, 0x4e#8, 0x53#8, 0x2d#8, 0x52#8, 0x45#8, 0x43#8, 0x4f#8, 0x56#8, 0x45#8, 0x52#8, 0x59#8,
    0x2d#8, 0x50#8, 0x4f#8, 0x4c#8, 0x49#8, 0x43#8, 0x59#8, 0x2d#8, 0x55#8, 0x50#8, 0x44#8, 0x41#8,
    0x54#8, 0x45#8, 0x2d#8, 0x76#8, 0x31#8]

/-- `"initialize"` -/
def initializationKind : Octets :=
  [0x69#8, 0x6e#8, 0x69#8, 0x74#8, 0x69#8, 0x61#8, 0x6c#8, 0x69#8, 0x7a#8, 0x65#8]

/-- `"update"` -/
def updateKind : Octets := [0x75#8, 0x70#8, 0x64#8, 0x61#8, 0x74#8, 0x65#8]

/-- `"PBNS-RECOVERY-POLICY-REF-v1"` -/
def expectedPolicyRef : Octets :=
  [0x50#8, 0x42#8, 0x4e#8, 0x53#8, 0x2d#8, 0x52#8, 0x45#8, 0x43#8, 0x4f#8, 0x56#8, 0x45#8, 0x52#8, 0x59#8,
    0x2d#8, 0x50#8, 0x4f#8, 0x4c#8, 0x49#8, 0x43#8, 0x59#8, 0x2d#8, 0x52#8, 0x45#8, 0x46#8, 0x2d#8,
    0x76#8, 0x31#8]

/-- `policy_public_valid` -/
def policyPublicValid (value : TpmPublic) : Bool :=
  match value.publicArea.detail with
  | .ecc ecc x y =>
    value.size ≠ 0#16 && value.publicArea.type = algEcc && value.publicArea.nameAlg = algSha256 &&
      value.publicArea.objectAttributes = objectSignEncrypt && value.publicArea.authPolicy = [] &&
      ecc.symmetric = algNull && ecc.scheme = algEcdsa && ecc.schemeHashAlg = algSha256 &&
      ecc.curveId = eccNistP256 && ecc.kdf = algNull && x.length = 32 && y.length = 32
  | .other _ => false

/-- The attributes of the index, with or without a value. -/
def nvAttributes (written : Bool) : BitVec 32 :=
  nvPolicyWrite ||| nvOwnerRead ||| nvNoDa ||| (if written then nvWritten else 0#32)

/-- `nv_public_valid` -/
def nvPublicValid (value : NvPublic) (written : Bool) : Bool :=
  value.size ≠ 0#16 && value.nvPublic.nvIndex = recoveryNvIndex &&
    value.nvPublic.nameAlg = algSha256 && value.nvPublic.attributes = nvAttributes written &&
    value.nvPublic.authPolicy.length = 32 && value.nvPublic.dataSize = 8#16

/-- `signature_valid` -/
def signatureValid (signature : TpmSignature) : Bool :=
  match signature.detail with
  | .ecdsa hash r s =>
    signature.sigAlg = algEcdsa && hash = algSha256 && 0 < r.length && r.length ≤ 32 &&
      0 < s.length && s.length ≤ 32
  | .other _ => false

/-- The number `target_matches` reads from the operand. -/
def operandVersion (operand : OctetArray 8) : BitVec 64 :=
  operand.toList.foldl (fun decoded octet => decoded <<< 8 ||| octet.zeroExtend 64) 0#64

/-- `authorization_valid` -/
def authorizationValid (a : Authorization) : Bool :=
  (a.kind = .initialization || a.kind = .update) && a.nvIndex = recoveryNvIndex &&
    nvPublicValid a.nvPublic (a.kind = .update) && a.nvName.length = nameSize &&
    a.targetVersion ≠ 0#64 && a.targetVersion = operandVersion a.operand && a.offset = 0#16 &&
    a.operation = (if a.kind = .update then eoUnsignedLt else 0#16) &&
    !allZero a.cpHash.toList && !allZero a.approvedPolicy.toList && a.policyRef = expectedPolicyRef &&
    policyPublicValid a.policyKeyPublic && a.policyKeyName.length = nameSize &&
    signatureValid a.signature && !allZero a.finalPolicy.toList &&
    a.nvPublic.nvPublic.authPolicy = a.finalPolicy.toList

/-! ### The wire format -/

section Wire

variable (tss : Tss)

/-- A structure marshalled into a buffer of so many octets; the library tells a buffer that is
too small from other errors. -/
def marshalInto (capacity : ℕ) (marshaled : Option Octets) : Except Status Octets := do
  let s ← orReject .errFormat marshaled
  rejectIf (capacity < s.length) .errLimit
  rejectIf (s = []) .errFormat
  .ok s

/-- The map `encode_unchecked` writes, over the marshalled structures. -/
def authorizationItem (a : Authorization) (nvPublic policyPublic signature : Octets) : Item :=
  .map [
    (1, .text (if a.kind = .initialization then initializationDomain else updateDomain)),
    (2, .int 1),
    (3, .text (if a.kind = .initialization then initializationKind else updateKind)),
    (4, .int a.nvIndex.toNat),
    (5, .bytes nvPublic),
    (6, .bytes a.nvName),
    (7, .int a.targetVersion.toNat),
    (8, .bytes a.operand.toList),
    (9, .int a.offset.toNat),
    (10, .int a.operation.toNat),
    (11, .bytes a.cpHash.toList),
    (12, .bytes a.approvedPolicy.toList),
    (13, .bytes a.policyRef),
    (14, .bytes policyPublic),
    (15, .bytes a.policyKeyName),
    (16, .bytes signature),
    (17, .bytes a.finalPolicy.toList)]

/-- `encode_unchecked` into a buffer of so many octets. -/
def encodeUnchecked (a : Authorization) (capacity : ℕ) : Except Status Octets := do
  let nvPublic ← marshalInto nvPublicMaxSize ((tss.marshalNv a.nvPublic.nvPublic).map sized)
  let policyPublic ←
    marshalInto tpmPublicMaxSize ((tss.marshalPublic a.policyKeyPublic.publicArea).map sized)
  let signature ← marshalInto tpmSignatureMaxSize (tss.marshalSignature a.signature)
  let encoded := encode (authorizationItem a nvPublic policyPublic signature)
  rejectIf (capacity < encoded.length) .errLimit
  rejectIf (encoded = [] ∨ objectMaxSize < encoded.length) .errFormat
  .ok encoded

/-- `pbns_recovery_policy_encode` -/
def recoveryPolicyEncode (a : Authorization) (capacity : ℕ) : Except Status Octets := do
  rejectIf (authorizationValid a = false) .errFormat
  encodeUnchecked tss a (if objectMaxSize < capacity then objectMaxSize else capacity)

/-- A structure that takes up the whole string. -/
def wholeOf {α : Type} (s : Octets) : Option (α × ℕ) → Except Status α
  | some (value, offset) => if offset ≠ s.length then .error .errFormat else .ok value
  | none => .error .errFormat

/-- The kind that goes with the two texts. -/
def kindOf (domain kind : Octets) : Except Status Kind :=
  if domain = initializationDomain ∧ kind = initializationKind then .ok .initialization
  else if domain = updateDomain ∧ kind = updateKind then .ok .update
  else .error .errFormat

variable (read : Octets → Option Item)

/-- `QCBORDecode_GetXInMapN` -/
def getInMap {α : Type} (item : Item) (label : Int) (get : Item → Option α) : Except Status α :=
  orReject .errFormat ((item.entry label).bind get)

/-- `decode_unchecked`; every error of the decoder is `PBNS_ERR_FORMAT`. -/
def decodeUnchecked (encoded : Octets) : Except Status Authorization := do
  let item ← orReject .errFormat (read encoded)
  let domain ← getInMap item 1 Item.textString
  let version ← getInMap item 2 Item.uint64
  let kind ← getInMap item 3 Item.textString
  let nvIndex ← getInMap item 4 Item.uint64
  let nvPublic ← getInMap item 5 Item.byteString
  let nvName ← getInMap item 6 Item.byteString
  let targetVersion ← getInMap item 7 Item.uint64
  let operand ← getInMap item 8 Item.byteString
  let offset ← getInMap item 9 Item.uint64
  let operation ← getInMap item 10 Item.uint64
  let cpHash ← getInMap item 11 Item.byteString
  let approved ← getInMap item 12 Item.byteString
  let policyRef ← getInMap item 13 Item.byteString
  let policyPublic ← getInMap item 14 Item.byteString
  let policyKeyName ← getInMap item 15 Item.byteString
  let signature ← getInMap item 16 Item.byteString
  let finalPolicy ← getInMap item 17 Item.byteString
  rejectIf (version ≠ 1 ∨ 2 ^ 32 ≤ nvIndex ∨ 2 ^ 16 ≤ offset ∨ 2 ^ 16 ≤ operation ∨
    nvName.length ≠ nameSize ∨ policyRef = [] ∨ refMaxSize < policyRef.length ∨
    policyKeyName.length ≠ nameSize) .errFormat
  let operand ← orReject .errFormat (octetArray 8 operand)
  let cpHash ← orReject .errFormat (octetArray 32 cpHash)
  let approvedPolicy ← orReject .errFormat (octetArray 32 approved)
  let finalPolicy ← orReject .errFormat (octetArray 32 finalPolicy)
  let kind ← kindOf domain kind
  let nvPublic ← wholeOf nvPublic (tss.unmarshalNv nvPublic)
  let policyKeyPublic ← wholeOf policyPublic (tss.unmarshalPublic policyPublic)
  let signature ← wholeOf signature (tss.unmarshalSignature signature)
  .ok { kind, nvIndex := BitVec.ofNat 32 nvIndex, nvPublic, nvName,
        targetVersion := BitVec.ofNat 64 targetVersion, operand, offset := BitVec.ofNat 16 offset,
        operation := BitVec.ofNat 16 operation, cpHash, approvedPolicy, policyRef, policyKeyPublic,
        policyKeyName, signature, finalPolicy }

/-- The scratch memory of the decoder: its length, its capacity, and whether it lies across the
input. -/
structure Scratch where
  length : ℕ
  capacity : ℕ
  overlaps : Bool

/-- The checks of `pbns_recovery_policy_decode`, without its output parameter. -/
def decodeChecked (encoded : Octets) (scratch : Scratch) : Except Status Authorization := do
  rejectIf (encoded = [] ∨ objectMaxSize < encoded.length ∨ scratch.length ≠ 0 ∨
    scratch.capacity < encoded.length) .errArgument
  rejectIf (scratch.overlaps = true) .errArgument
  let decoded ← decodeUnchecked tss read encoded
  rejectIf (authorizationValid decoded = false) .errFormat
  match encodeUnchecked tss decoded scratch.capacity with
  | .ok canonical => if canonical ≠ encoded then .error .errFormat else .ok decoded
  | .error _ => .error .errFormat

/-- `pbns_recovery_policy_decode`: the status, and the authorization it leaves. -/
def recoveryPolicyDecode (encoded : Octets) (scratch : Scratch) : Status × Authorization :=
  match decodeChecked tss read encoded scratch with
  | .ok decoded => (.ok, decoded)
  | .error status => (status, .zero)

variable {tss read}

theorem marshalInto_ok {capacity : ℕ} {marshaled : Option Octets} {s : Octets} :
    marshalInto capacity marshaled = .ok s ↔ marshaled = some s ∧ s.length ≤ capacity ∧ s ≠ [] := by
  simp only [marshalInto, bind_eq_ok, orReject_eq_ok, rejectIf_eq_ok, exists_const, Nat.not_lt, Except.ok.injEq]
  constructor
  · rintro ⟨_, hs, hlength, hne, rfl⟩
    exact ⟨hs, hlength, hne⟩
  · rintro ⟨hs, hlength, hne⟩
    exact ⟨s, hs, hlength, hne, rfl⟩

variable {a : Authorization} {encoded : Octets} {scratch : Scratch}

/-- What `encode_unchecked` writes, when it does. -/
theorem encodeUnchecked_ok {capacity : ℕ} :
    encodeUnchecked tss a capacity = .ok encoded ↔
      ∃ nvPublic policyPublic signature,
        marshalInto nvPublicMaxSize ((tss.marshalNv a.nvPublic.nvPublic).map sized) = .ok nvPublic ∧
        marshalInto tpmPublicMaxSize ((tss.marshalPublic a.policyKeyPublic.publicArea).map sized) =
          .ok policyPublic ∧
        marshalInto tpmSignatureMaxSize (tss.marshalSignature a.signature) = .ok signature ∧
        encoded = Cbor.encode (authorizationItem a nvPublic policyPublic signature) ∧
        encoded.length ≤ capacity ∧ encoded ≠ [] ∧ encoded.length ≤ objectMaxSize := by
  simp only [encodeUnchecked, bind_eq_ok, rejectIf_eq_ok, exists_const, Except.ok.injEq, not_or, Nat.not_lt]
  grind

/-- **What `pbns_recovery_policy_decode` accepts**: an object whose fields are a valid authorization
and that is the encoding of it. -/
theorem decodeChecked_ok :
    decodeChecked tss read encoded scratch = .ok a ↔
      (encoded ≠ [] ∧ encoded.length ≤ objectMaxSize ∧ scratch.length = 0 ∧
        encoded.length ≤ scratch.capacity) ∧ scratch.overlaps = false ∧
      decodeUnchecked tss read encoded = .ok a ∧ authorizationValid a = true ∧
      encodeUnchecked tss a scratch.capacity = .ok encoded := by
  simp only [decodeChecked, bind_eq_ok, rejectIf_eq_ok, exists_const, not_or, not_lt, not_not,
    Bool.not_eq_true, Bool.not_eq_false]
  grind

/-- An accepted object is the encoding of the authorization it gives, which is valid. -/
theorem decode_canonical (h : decodeChecked tss read encoded scratch = .ok a) :
    authorizationValid a = true ∧ encodeUnchecked tss a scratch.capacity = .ok encoded :=
  (decodeChecked_ok.mp h).2.2.2

theorem decodeUnchecked_error :
    FailsOnly (· ≠ Status.ok) (decodeUnchecked tss read encoded) := by
  have hget : ∀ {α : Type} (item : Item) (label : Int) (get : Item → Option α),
      FailsOnly (· ≠ Status.ok) (getInMap item label get) := fun _ _ _ => .orReject (by nofun) _
  have hkind : ∀ domain kind, FailsOnly (· ≠ Status.ok) (kindOf domain kind) := by
    intro domain kind e h
    unfold kindOf at h
    split_ifs at h
    cases h
    nofun
  have hwhole : ∀ {α : Type} (s : Octets) (value : Option (α × ℕ)),
      FailsOnly (· ≠ Status.ok) (wholeOf s value) := by
    intro α s value e h
    unfold wholeOf at h
    split at h
    · split_ifs at h
      cases h
      nofun
    · cases h
      nofun
  unfold decodeUnchecked
  exact .bind (.orReject (by nofun) _) fun _ =>
    .bind (hget _ _ _) fun _ => .bind (hget _ _ _) fun _ => .bind (hget _ _ _) fun _ =>
    .bind (hget _ _ _) fun _ => .bind (hget _ _ _) fun _ => .bind (hget _ _ _) fun _ =>
    .bind (hget _ _ _) fun _ => .bind (hget _ _ _) fun _ => .bind (hget _ _ _) fun _ =>
    .bind (hget _ _ _) fun _ => .bind (hget _ _ _) fun _ => .bind (hget _ _ _) fun _ =>
    .bind (hget _ _ _) fun _ => .bind (hget _ _ _) fun _ => .bind (hget _ _ _) fun _ =>
    .bind (hget _ _ _) fun _ => .bind (hget _ _ _) fun _ => .bind (.rejectIf (by nofun)) fun _ =>
    .bind (.orReject (by nofun) _) fun _ => .bind (.orReject (by nofun) _) fun _ =>
    .bind (.orReject (by nofun) _) fun _ => .bind (.orReject (by nofun) _) fun _ =>
    .bind (hkind _ _) fun _ => .bind (hwhole _ _) fun _ => .bind (hwhole _ _) fun _ =>
    .bind (hwhole _ _) fun _ => .ok _

/-- An object that is refused gets an error. -/
theorem decodeChecked_error :
    FailsOnly (· ≠ Status.ok) (decodeChecked tss read encoded scratch) := by
  unfold decodeChecked
  refine .bind (.rejectIf (by nofun)) fun _ => .bind (.rejectIf (by nofun)) fun _ =>
    .bind decodeUnchecked_error fun _ => .bind (.rejectIf (by nofun)) fun _ => ?_
  intro e h
  split at h
  · split_ifs at h
    cases h
    nofun
  · cases h
    nofun

theorem decode_rejected (h : (recoveryPolicyDecode tss read encoded scratch).1 ≠ .ok) :
    (recoveryPolicyDecode tss read encoded scratch).2 = .zero := by
  unfold recoveryPolicyDecode at h ⊢
  split
  · rename_i hok
    rw [hok] at h
    exact absurd rfl h
  · rfl

theorem operandVersion_eq (operand : OctetArray 8) :
    operandVersion operand = readU64Be operand.toList := by
  rw [operandVersion, readU64Be, List.take_of_length_le (by rw [List.Vector.toList_length])]
  rfl

/-- The parts of a valid authorization. -/
structure ValidAuthorization (a : Authorization) : Prop where
  kind : a.kind = .initialization ∨ a.kind = .update
  nvIndex : a.nvIndex = recoveryNvIndex
  nvPublic : nvPublicValid a.nvPublic (a.kind = .update) = true
  nvName : a.nvName.length = nameSize
  target : a.targetVersion ≠ 0#64
  operand : a.targetVersion = operandVersion a.operand
  offset : a.offset = 0#16
  operation : a.operation = if a.kind = .update then eoUnsignedLt else 0#16
  cpHash : allZero a.cpHash.toList = false
  approvedPolicy : allZero a.approvedPolicy.toList = false
  policyRef : a.policyRef = expectedPolicyRef
  policyKeyPublic : policyPublicValid a.policyKeyPublic = true
  policyKeyName : a.policyKeyName.length = nameSize
  signature : signatureValid a.signature = true
  finalPolicy : allZero a.finalPolicy.toList = false
  authPolicy : a.nvPublic.nvPublic.authPolicy = a.finalPolicy.toList

theorem authorizationValid_iff :
    authorizationValid a = true ↔ ValidAuthorization a := by
  simp only [authorizationValid, Bool.and_eq_true, Bool.or_eq_true, decide_eq_true_eq,
    Bool.not_eq_true', and_assoc]
  exact ⟨fun ⟨h1, h2, h3, h4, h5, h6, h7, h8, h9, h10, h11, h12, h13, h14, h15, h16⟩ =>
      ⟨h1, h2, h3, h4, h5, h6, h7, h8, h9, h10, h11, h12, h13, h14, h15, h16⟩,
    fun h => ⟨h.kind, h.nvIndex, h.nvPublic, h.nvName, h.target, h.operand, h.offset, h.operation,
      h.cpHash, h.approvedPolicy, h.policyRef, h.policyKeyPublic, h.policyKeyName, h.signature,
      h.finalPolicy, h.authPolicy⟩⟩

/-- The operand is the target version, most significant octet first. -/
theorem ValidAuthorization.operand_eq (h : ValidAuthorization a) :
    a.operand.toList = writeU64Be a.targetVersion := by
  rw [h.operand, operandVersion_eq, writeU64Be_readU64Be a.operand.toList_length]

end Wire

/-! ### Names, policies and the command hash -/

section Calculations

variable (tss : Tss)

/-- `sha256_parts` -/
def sha256Parts (parts : List Octets) : PolicyDigest := tss.sha256 parts.flatten

/-- The algorithm, then the hash of what was marshalled. -/
def nameOf (marshaled : Octets) : Octets := u16Be algSha256 ++ (sha256Parts tss [marshaled]).toList

/-- `public_name` -/
def publicName (value : PublicArea) : Except Status Octets :=
  match (tss.marshalPublic value).filter fun s => s.length ≤ marshalMax && s ≠ [] with
  | some s => .ok (nameOf tss s)
  | none => .error .errFormat

/-- `nv_name` -/
def nvName (value : NvArea) : Except Status Octets :=
  match (tss.marshalNv value).filter fun s => s.length ≤ marshalMax && s ≠ [] with
  | some s => .ok (nameOf tss s)
  | none => .error .errFormat

/-- `names_equal` -/
def namesEqual (left right : Octets) : Bool := left.length ≤ nameMax && left = right

def zeroDigest : Octets := List.replicate 32 0#8

/-- `compute_final_policy` -/
def computeFinalPolicy (policyKeyName policyRef : Octets) : PolicyDigest :=
  let first := sha256Parts tss [zeroDigest, writeU32Be ccPolicyAuthorize, policyKeyName]
  sha256Parts tss [first.toList, policyRef]

/-- The first half of `compute_approved_policy`. -/
def firstPolicy (a : Authorization) : PolicyDigest :=
  if a.kind = .initialization then sha256Parts tss [zeroDigest, writeU32Be ccPolicyNvWritten, [0#8]]
  else
    let args := sha256Parts tss [a.operand.toList, u16Be a.offset, u16Be a.operation]
    sha256Parts tss [zeroDigest, writeU32Be ccPolicyNv, args.toList, a.nvName]

/-- `compute_approved_policy` -/
def computeApprovedPolicy (a : Authorization) : PolicyDigest :=
  sha256Parts tss [(firstPolicy tss a).toList, writeU32Be ccPolicyCpHash, a.cpHash.toList]

/-- `compute_cp_hash` -/
def computeCpHash (a : Authorization) : Except Status PolicyDigest := do
  let result := tss.nvWritePrepare a.nvIndex a.operand.toList a.offset
  rejectIf (result ≠ rcSuccess) (tssStatus result)
  let parameters ← orReject .errCrypto (tss.nvWriteCpBuffer a.nvIndex a.operand.toList a.offset)
  rejectIf (transportMax < parameters.length) .errCrypto
  .ok (sha256Parts tss [writeU32Be ccNvWrite, a.nvName, a.nvName, parameters])

/-- Both marshal, into so much memory, to the same octets. -/
def marshalEqual (left right : Option Octets) : Bool :=
  match left, right with
  | some left, some right => left.length ≤ marshalMax && right.length ≤ marshalMax && left = right
  | _, _ => false

/-- `nv_public_equal` -/
def nvPublicEqual (left right : NvPublic) : Bool :=
  marshalEqual ((tss.marshalNv left.nvPublic).map sized) ((tss.marshalNv right.nvPublic).map sized)

/-- `public_equal` -/
def publicEqual (left right : TpmPublic) : Bool :=
  marshalEqual ((tss.marshalPublic left.publicArea).map sized)
    ((tss.marshalPublic right.publicArea).map sized)

/-- `PBNS_ANTI_ROLLBACK_TPM_CONTEXT` without the TPM; `bootServices` says whether `gBS` is there. -/
structure TpmContext where
  scratch : Scratch
  expectedPolicyKey : TpmPublic
  expectedPolicyKeyName : Octets
  expectedFinalPolicy : PolicyDigest
  bootServices : Bool

/-- The context `PbnsAntiRollbackTpmController` makes for a policy key, if it makes one. -/
def tpmController (scratch : Scratch) (bootServices : Bool) (policyKey : TpmPublic) :
    Option TpmContext :=
  if scratch.length ≠ 0 ∨ scratch.capacity ≠ objectMaxSize then none
  else
    match publicName tss policyKey.publicArea with
    | .ok name =>
      some ⟨scratch, policyKey, name, computeFinalPolicy tss name expectedPolicyRef, bootServices⟩
    | .error _ => none

/-- `verify_public_calculations` -/
def verifyPublicCalculations (context : TpmContext) (a : Authorization) : Except Status Unit := do
  rejectIf (publicEqual tss a.policyKeyPublic context.expectedPolicyKey = false ∨
    namesEqual a.policyKeyName context.expectedPolicyKeyName = false ∨
    a.finalPolicy ≠ context.expectedFinalPolicy) .errAuthentication
  let keyName ← publicName tss a.policyKeyPublic.publicArea
  rejectIf (namesEqual keyName a.policyKeyName = false) .errAuthentication
  let indexName ← nvName tss a.nvPublic.nvPublic
  rejectIf (namesEqual indexName a.nvName = false) .errAuthentication
  rejectIf (computeFinalPolicy tss a.policyKeyName a.policyRef ≠ a.finalPolicy) .errAuthentication
  rejectIf (computeApprovedPolicy tss a ≠ a.approvedPolicy) .errAuthentication
  let cpHash ← computeCpHash tss a
  rejectIf (cpHash ≠ a.cpHash) .errAuthentication

/-- A computation that does not match has an error. -/
theorem verifyPublicCalculations_error {context : TpmContext} {a : Authorization} :
    FailsOnly (· ≠ Status.ok) (verifyPublicCalculations tss context a) := by
  have hpublic : ∀ value, FailsOnly (· ≠ Status.ok) (publicName tss value) := by
    intro value
    unfold publicName
    split
    · exact .ok _
    · intro e h
      cases h
      nofun
  have hnv : ∀ value, FailsOnly (· ≠ Status.ok) (nvName tss value) := by
    intro value
    unfold nvName
    split
    · exact .ok _
    · intro e h
      cases h
      nofun
  have hcp : FailsOnly (· ≠ Status.ok) (computeCpHash tss a) := by
    intro e h
    unfold computeCpHash at h
    rcases bind_eq_error.mp h with h | ⟨_, -, h⟩
    · obtain ⟨hrc, rfl⟩ := rejectIf_eq_error.mp h
      exact tssStatus_ne_ok hrc
    · have hbuffer : FailsOnly (· ≠ Status.ok) (do
          let parameters ← orReject .errCrypto
            (tss.nvWriteCpBuffer a.nvIndex a.operand.toList a.offset)
          rejectIf (transportMax < parameters.length) .errCrypto
          .ok (sha256Parts tss [writeU32Be ccNvWrite, a.nvName, a.nvName, parameters])) :=
        .bind (.orReject (by nofun) _) fun _ => .bind (.rejectIf (by nofun)) fun _ => .ok _
      exact hbuffer e h
  unfold verifyPublicCalculations
  exact .bind (.rejectIf (by nofun)) fun _ => .bind (hpublic _) fun _ =>
    .bind (.rejectIf (by nofun)) fun _ => .bind (hnv _) fun _ => .bind (.rejectIf (by nofun)) fun _ =>
      .bind (.rejectIf (by nofun)) fun _ => .bind (.rejectIf (by nofun)) fun _ =>
        .bind hcp fun _ => .rejectIf (by nofun)

end Calculations

end Pbns.Policy
