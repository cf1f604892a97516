/-
Recovery version authorizations on the gateway side (`gateway/internal/recovery/policy.go`), and
that the gateway and the firmware agree on them.

The marshalling of TPM structures is the library both sides share, with SHA-256; so are the
policy digest formulas of the TPM specification.  ECDSA is a parameter of the gateway.

* `decodeUnchecked_item` — what the firmware reads from an object in canonical form;
* `policyRecord_accepted` — the firmware accepts what the gateway creates;
* `policyRecord_verified` — the gateway verifies what the firmware accepts;
* `policy_agreement` — both, with what the firmware's decoder guarantees.
-/
import Pbns.HostKey
import Pbns.RecoveryPolicy

namespace Pbns.Policy

open Octets Guard Cbor Enrollment

/-! ### The gateway's objects -/

inductive PolicyError
  | policy
  | policyVersion
  | policyAuthentication
  deriving DecidableEq

structure VersionAuthorization where
  domain : Octets
  version : BitVec 64
  kind : Octets
  nvIndex : BitVec 32
  nvPublic : NilBytes
  nvName : NilBytes
  targetVersion : BitVec 64
  operand : NilBytes
  offset : BitVec 16
  operation : BitVec 16
  cpHash : NilBytes
  approvedPolicy : NilBytes
  policyRef : NilBytes
  policyKeyPublic : NilBytes
  policyKeyName : NilBytes
  signature : NilBytes
  finalPolicy : NilBytes

/-- The object by the keys of its fields. -/
def VersionAuthorization.item (v : VersionAuthorization) : Item :=
  .map [
    (1, .text v.domain),
    (2, .int v.version.toNat),
    (3, .text v.kind),
    (4, .int v.nvIndex.toNat),
    (5, v.nvPublic.item),
    (6, v.nvName.item),
    (7, .int v.targetVersion.toNat),
    (8, v.operand.item),
    (9, .int v.offset.toNat),
    (10, .int v.operation.toNat),
    (11, v.cpHash.item),
    (12, v.approvedPolicy.item),
    (13, v.policyRef.item),
    (14, v.policyKeyPublic.item),
    (15, v.policyKeyName.item),
    (16, v.signature.item),
    (17, v.finalPolicy.item)]

/-- The limits of `decodeMode`. -/
def policyLimits : ReadLimits := ⟨4, 16, 24⟩

def VersionAuthorization.shapeValid (v : VersionAuthorization) : Bool :=
  (v.kind = initializationKind && v.domain = initializationDomain ||
      v.kind = updateKind && v.domain = updateDomain) &&
    v.version = 1#64 && v.nvIndex = recoveryNvIndex && v.targetVersion ≠ 0#64 &&
    0 < v.nvPublic.length && v.nvPublic.length ≤ 512 && v.nvName.length = 34 &&
    v.operand.length = 8 && v.cpHash.length = 32 && v.approvedPolicy.length = 32 &&
    0 < v.policyRef.length && v.policyRef.length ≤ 64 && 0 < v.policyKeyPublic.length &&
    v.policyKeyPublic.length ≤ 512 && v.policyKeyName.length = 34 && 0 < v.signature.length &&
    v.signature.length ≤ 256 && v.finalPolicy.length = 32

/-! ### Keys and TPM structures -/

structure PrivateKey where
  d : ℕ
  publicKey : PublicKey

/-- ECDSA on P-256; signing draws its randomness from the system. -/
structure Ecdsa where
  order : ℕ
  scalarBaseMult : ℕ → PublicKey
  sign : PrivateKey → PolicyDigest → Option (ℕ × ℕ)
  verify : PublicKey → PolicyDigest → ℕ → ℕ → Bool

def validPolicyPublicKey (key : PublicKey) : Bool := isOnCurve key.x key.y

def validPolicyPrivateKey (ecdsa : Ecdsa) (key : PrivateKey) : Bool :=
  0 < key.d && key.d < ecdsa.order && validPolicyPublicKey key.publicKey &&
    ecdsa.scalarBaseMult key.d = key.publicKey

/-- `FillBytes`: the number in so many octets, most significant first. -/
def fillBytes (width n : ℕ) : Octets :=
  (List.range width).map fun i => BitVec.ofNat 8 (n / 256 ^ (width - 1 - i))

/-- The public area of a policy key with these coordinates. -/
def policyArea (x y : Octets) : PublicArea where
  type := algEcc
  nameAlg := algSha256
  objectAttributes := objectSignEncrypt
  authPolicy := []
  detail := .ecc ⟨algNull, algEcdsa, algSha256, eccNistP256, algNull⟩ x y

/-- `policyTPMPublic` of a valid key -/
def policyTPMPublic (key : PublicKey) : PublicArea := policyArea (fillBytes 32 key.x) (fillBytes 32 key.y)

def recoveryNVPublic (index : BitVec 32) (finalPolicy : PolicyDigest) (written : Bool) : NvArea where
  nvIndex := index
  nameAlg := algSha256
  attributes := nvAttributes written
  authPolicy := finalPolicy.toList
  dataSize := 8#16

section Gateway

variable (tss : Tss) (ecdsa : Ecdsa)

/-- `tpm2.Marshal(tpm2.New2B(area))` -/
def marshalPublic2B (area : PublicArea) : Octets := sized ((tss.marshalPublic area).getD [])

def marshalNV2B (area : NvArea) : Octets := sized ((tss.marshalNv area).getD [])

/-- `tpm2.ObjectName` -/
def objectName (area : PublicArea) : Octets := nameOf tss ((tss.marshalPublic area).getD [])

/-- `tpm2.NVName` -/
def nvNameOf (area : NvArea) : Octets := nameOf tss ((tss.marshalNv area).getD [])

/-! ### Policy digests -/

def policyAuthorizeDigest (keyName policyRef : Octets) : PolicyDigest :=
  tss.sha256 ((tss.sha256 (zeroDigest ++ writeU32Be ccPolicyAuthorize ++ keyName)).toList ++ policyRef)

def writeCPHash (nvName operand : Octets) (offset : BitVec 16) : PolicyDigest :=
  tss.sha256 (writeU32Be ccNvWrite ++ nvName ++ nvName ++ (sized operand ++ u16Be offset))

/-- `PolicyCPHash.Update` -/
def policyCPHash (digest cpHash : PolicyDigest) : PolicyDigest :=
  tss.sha256 (digest.toList ++ writeU32Be ccPolicyCpHash ++ cpHash.toList)

/-- `PolicyNVWritten.Update` of a fresh calculator -/
def policyNVWritten (writtenSet : Bool) : PolicyDigest :=
  tss.sha256 (zeroDigest ++ writeU32Be ccPolicyNvWritten ++ [if writtenSet then 1#8 else 0#8])

/-- `PolicyNV.Update` of a fresh calculator -/
def policyNV (nvName operand : Octets) (offset operation : BitVec 16) : PolicyDigest :=
  tss.sha256 (zeroDigest ++ writeU32Be ccPolicyNv ++
    (tss.sha256 (operand ++ u16Be offset ++ u16Be operation)).toList ++ nvName)

def initializationPolicyDigests (nvName operand : Octets) : PolicyDigest × PolicyDigest :=
  let cpHash := writeCPHash tss nvName operand 0#16
  (cpHash, policyCPHash tss (policyNVWritten tss false) cpHash)

def versionPolicyDigests (nvName operand : Octets) (offset operation : BitVec 16) :
    PolicyDigest × PolicyDigest :=
  let cpHash := writeCPHash tss nvName operand offset
  (cpHash, policyCPHash tss (policyNV tss nvName operand offset operation) cpHash)

/-- `PolicyApprovalDigest` -/
def policyApprovalDigest (approvedPolicy policyRef : Octets) : PolicyDigest :=
  tss.sha256 (approvedPolicy ++ policyRef)

/-! ### Creating and verifying -/

/-- The signature `createPolicyAuthorization` makes of the two numbers. -/
def ecdsaSignature (r s : ℕ) : TpmSignature :=
  ⟨algEcdsa, .ecdsa algSha256 (fillBytes 32 r) (fillBytes 32 s)⟩

/-- The final policy for a key. -/
def keyPolicy (key : PublicKey) : PolicyDigest :=
  policyAuthorizeDigest tss (objectName tss (policyTPMPublic key)) expectedPolicyRef

/-- The index as `createPolicyAuthorization` describes it. -/
def keyNvPublic (key : PublicKey) (kind : Octets) : NvArea :=
  recoveryNVPublic recoveryNvIndex (keyPolicy tss key) (kind = updateKind)

/-- The command hash and the approved policy `createPolicyAuthorization` computes. -/
def keyDigests (key : PublicKey) (targetVersion : BitVec 64) (kind : Octets) :
    PolicyDigest × PolicyDigest :=
  let nvName := nvNameOf tss (keyNvPublic tss key kind)
  if kind = initializationKind then initializationPolicyDigests tss nvName (writeU64Be targetVersion)
  else versionPolicyDigests tss nvName (writeU64Be targetVersion) 0#16 eoUnsignedLt

/-- The object `createPolicyAuthorization` builds for a key and a signature. -/
def policyRecord (key : PublicKey) (targetVersion : BitVec 64) (kind signature : Octets) :
    VersionAuthorization where
  domain := if kind = initializationKind then initializationDomain else updateDomain
  version := 1#64
  kind := kind
  nvIndex := recoveryNvIndex
  nvPublic := some (marshalNV2B tss (keyNvPublic tss key kind))
  nvName := some (nvNameOf tss (keyNvPublic tss key kind))
  targetVersion := targetVersion
  operand := some (writeU64Be targetVersion)
  offset := 0#16
  operation := if kind = initializationKind then 0#16 else eoUnsignedLt
  cpHash := some (keyDigests tss key targetVersion kind).1.toList
  approvedPolicy := some (keyDigests tss key targetVersion kind).2.toList
  policyRef := some expectedPolicyRef
  policyKeyPublic := some (marshalPublic2B tss (policyTPMPublic key))
  policyKeyName := some (objectName tss (policyTPMPublic key))
  signature := some signature
  finalPolicy := some (keyPolicy tss key).toList

/-- `createPolicyAuthorization`; `none` where signing fails. -/
def createPolicyAuthorization (privateKey : PrivateKey) (nvIndex : BitVec 32)
    (targetVersion : BitVec 64) (kind : Octets) : Except PolicyError (Option Octets) := do
  rejectIf (validPolicyPrivateKey ecdsa privateKey = false ∨ nvIndex ≠ recoveryNvIndex ∨
    targetVersion = 0#64 ∨ (kind ≠ initializationKind ∧ kind ≠ updateKind)) .policyVersion
  let approvedPolicy := (keyDigests tss privateKey.publicKey targetVersion kind).2
  let signed :=
    ecdsa.sign privateKey (policyApprovalDigest tss approvedPolicy.toList expectedPolicyRef)
  .ok (signed.map fun (r, s) => encode (policyRecord tss privateKey.publicKey targetVersion kind
    ((tss.marshalSignature (ecdsaSignature r s)).getD [])).item)

/-- `canonicalTPM2BPublic` -/
def canonicalTPM2BPublic (encoded : Octets) : Bool :=
  match tss.unmarshalPublic encoded with
  | some (value, offset) => offset = encoded.length && marshalPublic2B tss value.publicArea = encoded
  | none => false

/-- `canonicalTPM2BNVPublic` -/
def canonicalTPM2BNVPublic (encoded : Octets) : Bool :=
  match tss.unmarshalNv encoded with
  | some (value, offset) => offset = encoded.length && marshalNV2B tss value.nvPublic = encoded
  | none => false

/-- The digests `verifyPolicyAuthorization` computes for the kind it expects. -/
def expectedDigests (expectedKind : Octets) (v : VersionAuthorization) (nvName operand : Octets) :
    Except PolicyError (PolicyDigest × PolicyDigest) :=
  if expectedKind = initializationKind then
    if v.domain ≠ initializationDomain ∨ v.operation ≠ 0#16 then .error .policyAuthentication
    else .ok (initializationPolicyDigests tss nvName operand)
  else if v.domain ≠ updateDomain ∨ v.operation ≠ eoUnsignedLt then .error .policyAuthentication
  else .ok (versionPolicyDigests tss nvName operand v.offset v.operation)

/-- The last part of `verifyPolicyAuthorization`: the signature of the approval. -/
def verifySignature (key : PublicKey) (approval : PolicyDigest) (encoded : Octets) :
    Except PolicyError Unit :=
  match tss.unmarshalSignature encoded with
  | some (signature, offset) =>
    if offset ≠ encoded.length ∨ (tss.marshalSignature signature).getD [] ≠ encoded ∨
        signature.sigAlg ≠ algEcdsa then .error .policyAuthentication
    else
      match signature.detail with
      | .ecdsa hash r s =>
        if hash ≠ algSha256 then .error .policyAuthentication
        else if ecdsa.verify key approval (bigEndian r) (bigEndian s) = false then
          .error .policyAuthentication
        else .ok ()
      | .other _ => .error .policyAuthentication
  | none => .error .policyAuthentication

variable (unmarshal : Octets → Option VersionAuthorization)

/-- `verifyPolicyAuthorization` -/
def verifyPolicyAuthorization (encoded : Octets) (expectedKey : PublicKey) (expectedIndex : BitVec 32)
    (expectedKind : Octets) (currentVersion : BitVec 64) : Except PolicyError VersionAuthorization := do
  rejectIf (encoded = [] ∨ objectMaxSize < encoded.length ∨ validPolicyPublicKey expectedKey = false ∨
    expectedIndex ≠ recoveryNvIndex) .policy
  let v ← orReject .policy (unmarshal encoded)
  rejectIf (encode v.item ≠ encoded ∨ v.shapeValid = false ∨ v.kind ≠ expectedKind) .policy
  rejectIf (v.nvIndex ≠ expectedIndex ∨ (expectedKind = updateKind ∧ v.targetVersion ≤ currentVersion))
    .policyVersion
  let policyPublic := policyTPMPublic expectedKey
  rejectIf (canonicalTPM2BPublic tss (v.policyKeyPublic.getD []) = false) .policyAuthentication
  let keyName := objectName tss policyPublic
  rejectIf (marshalPublic2B tss policyPublic ≠ v.policyKeyPublic.getD [] ∨
    keyName ≠ v.policyKeyName.getD []) .policyAuthentication
  let finalPolicy := policyAuthorizeDigest tss keyName (v.policyRef.getD [])
  rejectIf (finalPolicy.toList ≠ v.finalPolicy.getD []) .policyAuthentication
  let nvPublic := recoveryNVPublic expectedIndex finalPolicy (expectedKind = updateKind)
  rejectIf (canonicalTPM2BNVPublic tss (v.nvPublic.getD []) = false) .policyAuthentication
  let nvName := nvNameOf tss nvPublic
  rejectIf (marshalNV2B tss nvPublic ≠ v.nvPublic.getD [] ∨ nvName ≠ v.nvName.getD [])
    .policyAuthentication
  let expectedOperand := writeU64Be v.targetVersion
  rejectIf (expectedOperand ≠ v.operand.getD [] ∨ v.offset ≠ 0#16 ∨
    v.policyRef.getD [] ≠ expectedPolicyRef) .policyAuthentication
  let digests ← expectedDigests tss expectedKind v nvName expectedOperand
  rejectIf (digests.1.toList ≠ v.cpHash.getD [] ∨ digests.2.toList ≠ v.approvedPolicy.getD [])
    .policyAuthentication
  verifySignature tss ecdsa expectedKey
    (policyApprovalDigest tss digests.2.toList (v.policyRef.getD [])) (v.signature.getD [])
  .ok v

end Gateway

/-! ### The libraries -/

/-- The structure goes into memory of this size and comes back, with the offset behind it. -/
structure Marshals {α : Type} (encoded : Octets) (unmarshal : Octets → Option (α × ℕ)) (value : α)
    (limit : ℕ) : Prop where
  nonempty : encoded ≠ []
  fits : encoded.length ≤ limit
  back : unmarshal encoded = some (value, encoded.length)

/-- What the TPM library and SHA-256 are expected to do: the public area of a P-256 policy key, an
index with a digest for a policy and an ECDSA signature can be marshalled, fit the buffers and are
read back; the parameters of an `NV_Write` are its data and its offset; no digest is zero. -/
structure Tss.Documented (tss : Tss) : Prop where
  publicArea : ∀ x y, x.length = 32 → y.length = 32 → ∃ s, tss.marshalPublic (policyArea x y) = some s ∧
    s ≠ [] ∧ Marshals (sized s) tss.unmarshalPublic ⟨BitVec.ofNat 16 s.length, policyArea x y⟩
      tpmPublicMaxSize
  nvArea : ∀ area, area.authPolicy.length = 32 → ∃ s, tss.marshalNv area = some s ∧ s ≠ [] ∧
    Marshals (sized s) tss.unmarshalNv ⟨BitVec.ofNat 16 s.length, area⟩ nvPublicMaxSize
  signature : ∀ r s, r.length = 32 → s.length = 32 → ∃ t,
    tss.marshalSignature ⟨algEcdsa, .ecdsa algSha256 r s⟩ = some t ∧
      Marshals t tss.unmarshalSignature ⟨algEcdsa, .ecdsa algSha256 r s⟩ tpmSignatureMaxSize
  prepare : ∀ nvIndex data offset, tss.nvWritePrepare nvIndex data offset = rcSuccess
  cpBuffer : ∀ nvIndex data offset, tss.nvWriteCpBuffer nvIndex data offset =
    some (sized data ++ u16Be offset)
  digest : ∀ s, allZero (tss.sha256 s).toList = false

/-- The limits of the firmware's CBOR decoder. -/
def qcborLimits : ReadLimits := ⟨15, 65534, 32767⟩

/-! ### What the firmware reads -/

section Firmware

variable {tss : Tss} {read : Octets → Option Item}

/-- The texts of an authorization. -/
def kindText (kind : Kind) : Octets := if kind = .initialization then initializationKind else updateKind

def domainText (kind : Kind) : Octets :=
  if kind = .initialization then initializationDomain else updateDomain

theorem kindOf_texts {kind : Kind} (h : kind = .initialization ∨ kind = .update) :
    kindOf (domainText kind) (kindText kind) = .ok kind := by
  rcases h with rfl | rfl <;> decide

theorem ascii_texts (kind : Kind) :
    Utf8.WellFormed (domainText kind) ∧ Utf8.WellFormed (kindText kind) := by
  cases kind <;> exact ⟨.of_ascii (by decide), .of_ascii (by decide)⟩

theorem texts_length (kind : Kind) : (domainText kind).length ≤ 30 ∧ (kindText kind).length ≤ 10 := by
  cases kind <;> decide

/-- The item of a valid authorization whose structures fit the buffers is within the limits of both
decoders. -/
theorem ValidAuthorization.item_within {limits : ReadLimits} {n : ℕ} {a : Authorization}
    (h : ValidAuthorization a) (utf8 : Bool) (hlimit : 17 ≤ limits.mapPairs)
    {nvPublic policyPublic signature : Octets} (hnv : nvPublic.length ≤ nvPublicMaxSize)
    (hpublic : policyPublic.length ≤ tpmPublicMaxSize)
    (hsignature : signature.length ≤ tpmSignatureMaxSize) :
    (authorizationItem a nvPublic policyPublic signature).Within limits utf8 (n + 1) := by
  have hstring : ∀ {s : Octets} {k : ℕ}, s.length ≤ k → k < 2 ^ 64 →
      (Item.bytes s).Within limits utf8 n := fun hle hlt => .bytes (Nat.lt_of_le_of_lt hle hlt)
  have harray : ∀ {k : ℕ} (v : OctetArray k), k < 2 ^ 64 → (Item.bytes v.toList).Within limits utf8 n :=
    fun v hk => hstring (Nat.le_of_eq v.toList_length) hk
  have hword : ∀ {w : ℕ} (v : BitVec w), w ≤ 64 → (Item.int v.toNat).Within limits utf8 n :=
    fun v hw => .nat (Nat.lt_of_lt_of_le v.isLt (Nat.pow_le_pow_right (by decide) hw))
  have htext : (Item.text (domainText a.kind)).Within limits utf8 n ∧
      (Item.text (kindText a.kind)).Within limits utf8 n := by
    obtain ⟨hdomain, hkind⟩ := ascii_texts a.kind
    obtain ⟨hdomainLength, hkindLength⟩ := texts_length a.kind
    exact ⟨.text (Nat.lt_of_le_of_lt hdomainLength (by decide)) fun _ => hdomain,
      .text (Nat.lt_of_le_of_lt hkindLength (by decide)) fun _ => hkind⟩
  refine .of_keys [1, 2, 3, 4, 5, 6, 7, 8, 9, 10, 11, 12, 13, 14, 15, 16, 17] rfl (by decide)
    (by decide) (by decide) hlimit ?_
  simp only [List.map_cons, List.map_nil, List.forall_mem_cons]
  exact ⟨htext.1, .nat (by decide), htext.2, hword _ (by decide), hstring hnv (by decide),
    hstring (Nat.le_of_eq h.nvName) (by decide), hword _ (by decide), harray _ (by decide),
    hword _ (by decide), hword _ (by decide), harray _ (by decide), harray _ (by decide),
    hstring (Nat.le_of_eq (congrArg List.length h.policyRef)) (by decide), hstring hpublic (by decide),
    hstring (Nat.le_of_eq h.policyKeyName) (by decide), hstring hsignature (by decide),
    harray _ (by decide), by nofun⟩

theorem wholeOf_ok {α : Type} {s : Octets} {read : Option (α × ℕ)} {value : α} :
    wholeOf s read = .ok value ↔ read = some (value, s.length) := by
  rcases read with _ | ⟨value', offset⟩
  · exact ⟨nofun, nofun⟩
  · rw [wholeOf, Option.some.injEq, Prod.mk.injEq]
    split_ifs with h
    · exact ⟨nofun, fun heq => absurd heq.2 h⟩
    · exact ⟨fun heq => ⟨Except.ok.inj heq, not_not.mp h⟩, fun heq => congrArg _ heq.1⟩

theorem getInMap_of {α : Type} {item entry : Item} {label : Int} {get : Item → Option α} {v : α}
    (h : item.entry label = some entry) (hget : get entry = some v) : getInMap item label get = .ok v := by
  rw [getInMap, h, Option.bind_some, hget]
  rfl

/-- **What the firmware reads from an object in canonical form**: its fields, if the TPM structures
are read back. -/
theorem decodeUnchecked_item (hreads : Reads qcborLimits false read) {a : Authorization}
    {nvPublic policyPublic signature : Octets} (hvalid : ValidAuthorization a)
    (hnv : nvPublic.length ≤ nvPublicMaxSize) (hpublic : policyPublic.length ≤ tpmPublicMaxSize)
    (hsignature : signature.length ≤ tpmSignatureMaxSize) :
    decodeUnchecked tss read (encode (authorizationItem a nvPublic policyPublic signature)) = .ok a ↔
      tss.unmarshalNv nvPublic = some (a.nvPublic, nvPublic.length) ∧
      tss.unmarshalPublic policyPublic = some (a.policyKeyPublic, policyPublic.length) ∧
      tss.unmarshalSignature signature = some (a.signature, signature.length) := by
  have hread := hreads _ (hvalid.item_within false (by decide) hnv hpublic hsignature)
  have hchecks : ¬ ((1#64).toNat ≠ 1 ∨ 2 ^ 32 ≤ a.nvIndex.toNat ∨ 2 ^ 16 ≤ a.offset.toNat ∨
      2 ^ 16 ≤ a.operation.toNat ∨ a.nvName.length ≠ nameSize ∨ a.policyRef = [] ∨
      refMaxSize < a.policyRef.length ∨ a.policyKeyName.length ≠ nameSize) := by
    simp only [not_or, Nat.not_le, not_not, a.nvIndex.isLt, a.offset.isLt, a.operation.isLt,
      hvalid.nvName, hvalid.policyRef, hvalid.policyKeyName]
    decide
  have hword : ∀ {w : ℕ} (v : BitVec w), w ≤ 64 → (Item.int v.toNat).uint64 = some v.toNat :=
    fun v hw => Item.uint64_int (Nat.lt_of_lt_of_le v.isLt (Nat.pow_le_pow_right (by decide) hw))
  have hstring : ∀ {label : Int} {item : Item} {s : Octets}, item.entry label = some (.bytes s) →
      getInMap item label Item.byteString = .ok s := fun h => getInMap_of h rfl
  unfold decodeUnchecked
  rw [bind_of_ok (orReject_eq_ok.mpr hread), bind_of_ok (getInMap_of (v := domainText a.kind) rfl rfl),
    bind_of_ok (getInMap_of rfl (hword 1#64 (by decide))), bind_of_ok (getInMap_of (v := kindText a.kind) rfl rfl),
    bind_of_ok (getInMap_of rfl (hword a.nvIndex (by decide))), bind_of_ok (hstring rfl),
    bind_of_ok (hstring rfl), bind_of_ok (getInMap_of rfl (hword a.targetVersion (by decide))),
    bind_of_ok (hstring rfl), bind_of_ok (getInMap_of rfl (hword a.offset (by decide))),
    bind_of_ok (getInMap_of rfl (hword a.operation (by decide))), bind_of_ok (hstring rfl),
    bind_of_ok (hstring rfl), bind_of_ok (hstring rfl), bind_of_ok (hstring rfl),
    bind_of_ok (hstring rfl), bind_of_ok (hstring rfl), bind_of_ok (hstring rfl)]
  rw [rejectIf_bind_of_not hchecks]
  simp only [octetArray_toList, kindOf_texts hvalid.kind, bind_eq_ok, orReject_eq_ok, wholeOf_ok,
    BitVec.ofNat_toNat, BitVec.setWidth_eq, Except.ok.injEq, Authorization.ext_iff]
  grind

/-- The structures of an authorization as octets: they fit the buffers and can be read back. -/
structure Marshaled (tss : Tss) (a : Authorization) (nvPublic policyPublic signature : Octets) :
    Prop where
  nvEncoded : (tss.marshalNv a.nvPublic.nvPublic).map sized = some nvPublic
  nvMarshals : Marshals nvPublic tss.unmarshalNv a.nvPublic nvPublicMaxSize
  publicEncoded : (tss.marshalPublic a.policyKeyPublic.publicArea).map sized = some policyPublic
  publicMarshals : Marshals policyPublic tss.unmarshalPublic a.policyKeyPublic tpmPublicMaxSize
  signatureEncoded : tss.marshalSignature a.signature = some signature
  signatureMarshals : Marshals signature tss.unmarshalSignature a.signature tpmSignatureMaxSize

theorem marshals_iff {α : Type} {marshaled : Option Octets} {s : Octets} {value : α} {limit : ℕ}
    {unmarshal : Octets → Option (α × ℕ)} :
    marshaled = some s ∧ Marshals s unmarshal value limit ↔
      marshalInto limit marshaled = .ok s ∧ unmarshal s = some (value, s.length) := by
  rw [marshalInto_ok]
  exact ⟨fun ⟨h, hs⟩ => ⟨⟨h, hs.fits, hs.nonempty⟩, hs.back⟩, fun ⟨h, hback⟩ => ⟨h.1, h.2.2, h.2.1, hback⟩⟩

section Item

variable {a : Authorization} {nvPublic policyPublic signature : Octets}

theorem authorizationItem_room : (authorizationItem a nvPublic policyPublic signature).room =
    419 + ((domainText a.kind).length + (kindText a.kind).length + nvPublic.length + a.nvName.length +
      a.policyRef.length + policyPublic.length + a.policyKeyName.length + signature.length) := by
  simp only [authorizationItem, Item.room, roomPairs, List.Vector.toList_length]
  rw [← domainText, ← kindText]
  generalize (domainText a.kind).length = domainLength
  generalize (kindText a.kind).length = kindLength
  omega

theorem authorizationItem_length (hnv : nvPublic.length ≤ nvPublicMaxSize)
    (hpublic : policyPublic.length ≤ tpmPublicMaxSize)
    (hsignature : signature.length ≤ tpmSignatureMaxSize) (hname : a.nvName.length = nameSize)
    (href : a.policyRef = expectedPolicyRef) (hkeyName : a.policyKeyName.length = nameSize) :
    (encode (authorizationItem a nvPublic policyPublic signature)).length ≤ objectMaxSize := by
  have hlength := encode_length_le (authorizationItem a nvPublic policyPublic signature)
  obtain ⟨hdomain, hkind⟩ := texts_length a.kind
  have hrefLength : a.policyRef.length = 27 := by
    rw [href]
    rfl
  rw [authorizationItem_room] at hlength
  rw [nvPublicMaxSize] at hnv
  rw [tpmPublicMaxSize] at hpublic
  rw [tpmSignatureMaxSize] at hsignature
  rw [nameSize] at hname hkeyName
  rw [objectMaxSize]
  generalize (domainText a.kind).length = domainLength at *
  generalize (kindText a.kind).length = kindLength at *
  omega

/-- **The firmware accepts exactly the encodings of valid authorizations** whose structures the TPM
library reads back. -/
theorem decodeChecked_iff (hreads : Reads qcborLimits false read) {encoded : Octets}
    {scratch : Scratch} :
    decodeChecked tss read encoded scratch = .ok a ↔
      ∃ nvPublic policyPublic signature, Marshaled tss a nvPublic policyPublic signature ∧
        encoded = encode (authorizationItem a nvPublic policyPublic signature) ∧
        ValidAuthorization a ∧ scratch.length = 0 ∧ encoded.length ≤ scratch.capacity ∧
        scratch.overlaps = false := by
  rw [decodeChecked_ok, authorizationValid_iff, encodeUnchecked_ok]
  constructor
  · rintro ⟨⟨-, -, hlength, hcapacity⟩, hoverlaps, hdecoded, hvalid, nvPublic, policyPublic, signature, hnv,
      hpublic, hsignature, rfl, -⟩
    obtain ⟨hnvBack, hpublicBack, hsignatureBack⟩ := (decodeUnchecked_item hreads hvalid
      (marshalInto_ok.mp hnv).2.1 (marshalInto_ok.mp hpublic).2.1 (marshalInto_ok.mp hsignature).2.1).mp hdecoded
    obtain ⟨hnvEncoded, hnv⟩ := marshals_iff.mpr ⟨hnv, hnvBack⟩
    obtain ⟨hpublicEncoded, hpublic⟩ := marshals_iff.mpr ⟨hpublic, hpublicBack⟩
    obtain ⟨hsignatureEncoded, hsignature⟩ := marshals_iff.mpr ⟨hsignature, hsignatureBack⟩
    exact ⟨_, _, _, ⟨hnvEncoded, hnv, hpublicEncoded, hpublic, hsignatureEncoded, hsignature⟩, rfl, hvalid,
      hlength, hcapacity, hoverlaps⟩
  · rintro ⟨nvPublic, policyPublic, signature, hm, rfl, hvalid, hlength, hcapacity, hoverlaps⟩
    obtain ⟨hnv, hnvBack⟩ := marshals_iff.mp ⟨hm.nvEncoded, hm.nvMarshals⟩
    obtain ⟨hpublic, hpublicBack⟩ := marshals_iff.mp ⟨hm.publicEncoded, hm.publicMarshals⟩
    obtain ⟨hsignature, hsignatureBack⟩ := marshals_iff.mp ⟨hm.signatureEncoded, hm.signatureMarshals⟩
    have hmax := authorizationItem_length hm.nvMarshals.fits hm.publicMarshals.fits
      hm.signatureMarshals.fits hvalid.nvName hvalid.policyRef hvalid.policyKeyName
    exact ⟨⟨encode_ne_nil _, hmax, hlength, hcapacity⟩, hoverlaps,
      (decodeUnchecked_item hreads hvalid hm.nvMarshals.fits hm.publicMarshals.fits
        hm.signatureMarshals.fits).mpr ⟨hnvBack, hpublicBack, hsignatureBack⟩, hvalid,
      _, _, _, hnv, hpublic, hsignature, rfl, hcapacity, encode_ne_nil _, hmax⟩

end Item

end Firmware

/-! ### The public calculations -/

section Calculations

variable {tss : Tss}

theorem computeFinalPolicy_eq (keyName policyRef : Octets) :
    computeFinalPolicy tss keyName policyRef = policyAuthorizeDigest tss keyName policyRef := by
  simp only [computeFinalPolicy, policyAuthorizeDigest, sha256Parts, List.flatten_cons, List.flatten_nil,
    List.append_nil, List.append_assoc]

/-- The digests of an authorization by the formulas of the gateway. -/
def authorizationDigests (tss : Tss) (a : Authorization) : PolicyDigest × PolicyDigest :=
  if a.kind = .initialization then initializationPolicyDigests tss a.nvName a.operand.toList
  else versionPolicyDigests tss a.nvName a.operand.toList a.offset a.operation

variable {a : Authorization} {s : Octets}

theorem authorizationDigests_cpHash (hoffset : a.offset = 0#16) :
    (authorizationDigests tss a).1 = writeCPHash tss a.nvName a.operand.toList a.offset := by
  unfold authorizationDigests
  split_ifs
  · rw [hoffset]
    rfl
  · rfl

theorem computeApprovedPolicy_eq :
    computeApprovedPolicy tss a = policyCPHash tss
      (if a.kind = .initialization then policyNVWritten tss false
        else policyNV tss a.nvName a.operand.toList a.offset a.operation) a.cpHash := by
  have hfirst : firstPolicy tss a = if a.kind = .initialization then policyNVWritten tss false
      else policyNV tss a.nvName a.operand.toList a.offset a.operation := by
    unfold firstPolicy
    split_ifs
    · simp only [policyNVWritten, sha256Parts, List.flatten_cons, List.flatten_nil, List.append_nil,
        List.append_assoc, Bool.false_eq_true, if_false]
    · simp only [policyNV, sha256Parts, List.flatten_cons, List.flatten_nil, List.append_nil,
        List.append_assoc]
  rw [computeApprovedPolicy, hfirst]
  simp only [policyCPHash, sha256Parts, List.flatten_cons, List.flatten_nil, List.append_nil,
    List.append_assoc]

theorem authorizationDigests_approved (hcpHash : a.cpHash = (authorizationDigests tss a).1) :
    (authorizationDigests tss a).2 = computeApprovedPolicy tss a := by
  rw [computeApprovedPolicy_eq, hcpHash]
  unfold authorizationDigests
  split_ifs <;> rfl

theorem nameOf_length (s : Octets) : (nameOf tss s).length = 34 := by
  rw [nameOf, List.length_append, List.Vector.toList_length]
  rfl

theorem namesEqual_nameOf {right : Octets} : namesEqual (nameOf tss s) right = true ↔ nameOf tss s = right := by
  rw [namesEqual, Bool.and_eq_true, decide_eq_true_eq, decide_eq_true_eq, nameOf_length]
  exact and_iff_right (by decide)

theorem sized_length (s : Octets) : (sized s).length = s.length + 2 := by
  rw [sized, List.length_append, Nat.add_comm]
  rfl

theorem ofNat_length_ne_zero (hne : s ≠ []) (h : s.length < 2 ^ 16) :
    BitVec.ofNat 16 s.length ≠ 0#16 := by
  intro hzero
  have hlength := congrArg BitVec.toNat hzero
  rw [BitVec.toNat_ofNat, Nat.mod_eq_of_lt h] at hlength
  exact hne (List.length_eq_zero_iff.mp hlength)

/-- An area with its size, as the library reads it back. -/
def nvPublicOf (tss : Tss) (area : NvArea) : NvPublic :=
  ⟨BitVec.ofNat 16 ((tss.marshalNv area).getD []).length, area⟩

def tpmPublicOf (tss : Tss) (area : PublicArea) : TpmPublic :=
  ⟨BitVec.ofNat 16 ((tss.marshalPublic area).getD []).length, area⟩

theorem sized_injective {t : Octets} (h : sized s = sized t) : s = t :=
  congrArg (List.drop 2) h

theorem fillBytes_length (width n : ℕ) : (fillBytes width n).length = width := by
  rw [fillBytes, List.length_map, List.length_range]

/-- The area has a name, and can be compared, marshalled and read back. -/
structure PublicHandled (tss : Tss) (area : PublicArea) : Prop where
  name : publicName tss area = .ok (objectName tss area)
  encoded : (tss.marshalPublic area).map sized = some (marshalPublic2B tss area)
  marshals : Marshals (marshalPublic2B tss area) tss.unmarshalPublic (tpmPublicOf tss area)
    tpmPublicMaxSize
  size : (tpmPublicOf tss area).size ≠ 0#16

structure NvHandled (tss : Tss) (area : NvArea) : Prop where
  name : nvName tss area = .ok (nvNameOf tss area)
  encoded : (tss.marshalNv area).map sized = some (marshalNV2B tss area)
  marshals : Marshals (marshalNV2B tss area) tss.unmarshalNv (nvPublicOf tss area) nvPublicMaxSize
  size : (nvPublicOf tss area).size ≠ 0#16

/-- Octets that fit the buffers with their size are named as they are. -/
theorem filter_marshalled (hne : s ≠ []) (hfits : (sized s).length ≤ marshalMax) :
    (some s).filter (fun s => s.length ≤ marshalMax && s ≠ []) = some s ∧
      BitVec.ofNat 16 s.length ≠ 0#16 := by
  rw [sized_length] at hfits
  have hmax : s.length ≤ marshalMax := by omega
  refine ⟨by simp [hmax, hne], ofNat_length_ne_zero hne ?_⟩
  exact Nat.lt_of_le_of_lt hmax (by decide)

variable (hlib : tss.Documented)

include hlib

theorem Tss.Documented.policyArea_ok {x y : Octets} (hx : x.length = 32) (hy : y.length = 32) :
    PublicHandled tss (policyArea x y) := by
  obtain ⟨s, hs, hne, hmarshals⟩ := hlib.publicArea x y hx hy
  obtain ⟨hkept, hsize⟩ := filter_marshalled hne hmarshals.fits
  constructor <;> simp only [publicName, objectName, marshalPublic2B, tpmPublicOf, hs, hkept,
    Option.map_some, Option.getD_some]
  · exact hmarshals
  · exact hsize

theorem Tss.Documented.nvArea_ok {area : NvArea} (h : area.authPolicy.length = 32) :
    NvHandled tss area := by
  obtain ⟨s, hs, hne, hmarshals⟩ := hlib.nvArea area h
  obtain ⟨hkept, hsize⟩ := filter_marshalled hne (Nat.le_trans hmarshals.fits (by decide))
  constructor <;> simp only [nvName, nvNameOf, marshalNV2B, nvPublicOf, hs, hkept, Option.map_some,
    Option.getD_some]
  · exact hmarshals
  · exact hsize

theorem Tss.Documented.policyTPMPublic_ok (key : PublicKey) :
    PublicHandled tss (policyTPMPublic key) :=
  hlib.policyArea_ok (fillBytes_length 32 key.x) (fillBytes_length 32 key.y)

theorem Tss.Documented.keyNvPublic_ok (key : PublicKey) (kind : Octets) :
    NvHandled tss (keyNvPublic tss key kind) :=
  hlib.nvArea_ok (List.Vector.toList_length _)

theorem Tss.Documented.cpHash_ok :
    computeCpHash tss a = .ok (writeCPHash tss a.nvName a.operand.toList a.offset) := by
  unfold computeCpHash
  have hbuffer : ¬ transportMax < (sized a.operand.toList ++ u16Be a.offset).length := by
    rw [List.length_append, sized_length, List.Vector.toList_length]
    exact (by decide : ¬ transportMax < 8 + 2 + 2)
  rw [hlib.prepare, hlib.cpBuffer, rejectIf_bind_of_not (not_not.mpr rfl),
    bind_of_ok (orReject_eq_ok.mpr rfl), rejectIf_bind_of_not hbuffer]
  simp only [writeCPHash, sha256Parts, List.flatten_cons, List.flatten_nil, List.append_nil,
    List.append_assoc]

omit hlib in
/-- The area of a valid policy key. -/
theorem policyArea_of_valid {value : TpmPublic} (h : policyPublicValid value = true) :
    ∃ x y, x.length = 32 ∧ y.length = 32 ∧ value.publicArea = policyArea x y := by
  obtain ⟨size, ⟨type, nameAlg, attributes, authPolicy, detail⟩⟩ := value
  cases detail with
  | ecc ecc x y =>
    obtain ⟨symmetric, scheme, schemeHashAlg, curveId, kdf⟩ := ecc
    simp only [policyPublicValid, Bool.and_eq_true, decide_eq_true_eq] at h
    obtain ⟨⟨⟨⟨⟨⟨⟨⟨⟨⟨⟨-, rfl⟩, rfl⟩, rfl⟩, rfl⟩, rfl⟩, rfl⟩, rfl⟩, rfl⟩, rfl⟩, hx⟩, hy⟩ := h
    exact ⟨x, y, hx, hy, rfl⟩
  | other content => cases h

/-- The authorization is for this key, and its names and digests are what they should be. -/
structure KeyChecks (tss : Tss) (key : PublicKey) (a : Authorization) : Prop where
  policyKeyPublic : marshalPublic2B tss a.policyKeyPublic.publicArea =
    marshalPublic2B tss (policyTPMPublic key)
  policyKeyName : a.policyKeyName = objectName tss (policyTPMPublic key)
  finalPolicy : a.finalPolicy = policyAuthorizeDigest tss a.policyKeyName a.policyRef
  nvName : a.nvName = nvNameOf tss a.nvPublic.nvPublic
  digests : (a.cpHash, a.approvedPolicy) = authorizationDigests tss a

/-- The context for a policy key. -/
theorem Tss.Documented.controller {scratch : Scratch} {bootServices : Bool} {size : BitVec 16}
    {key : PublicKey} {context : TpmContext}
    (h : tpmController tss scratch bootServices ⟨size, policyTPMPublic key⟩ = some context) :
    context.expectedPolicyKey.publicArea = policyTPMPublic key ∧
      context.expectedPolicyKeyName = objectName tss (policyTPMPublic key) ∧
      context.expectedFinalPolicy = keyPolicy tss key := by
  unfold tpmController at h
  split_ifs at h
  rw [(hlib.policyTPMPublic_ok key).name] at h
  obtain rfl := Option.some.inj h
  exact ⟨rfl, rfl, computeFinalPolicy_eq _ _⟩

/-- **What the public calculations check**, for a valid authorization. -/
theorem verifyPublicCalculations_iff {scratch : Scratch} {bootServices : Bool} {size : BitVec 16}
    {key : PublicKey} {context : TpmContext}
    (hcontext : tpmController tss scratch bootServices ⟨size, policyTPMPublic key⟩ = some context)
    (hvalid : ValidAuthorization a) :
    verifyPublicCalculations tss context a = .ok () ↔ KeyChecks tss key a := by
  obtain ⟨hkey, hkeyName, hfinal⟩ := hlib.controller hcontext
  obtain ⟨x, y, hx, hy, harea⟩ := policyArea_of_valid hvalid.policyKeyPublic
  have hpublic := hlib.policyArea_ok hx hy
  rw [← harea] at hpublic
  have hexpected := hlib.policyTPMPublic_ok key
  have hpolicy : a.nvPublic.nvPublic.authPolicy.length = 32 := by
    rw [hvalid.authPolicy, List.Vector.toList_length]
  have hequal : publicEqual tss a.policyKeyPublic context.expectedPolicyKey = true ↔
      marshalPublic2B tss a.policyKeyPublic.publicArea = marshalPublic2B tss (policyTPMPublic key) := by
    rw [publicEqual, hkey, hpublic.encoded, hexpected.encoded, marshalEqual, Bool.and_eq_true,
      Bool.and_eq_true, decide_eq_true_eq, decide_eq_true_eq, decide_eq_true_eq]
    exact ⟨fun h => h.2, fun h => ⟨⟨hpublic.marshals.fits, hexpected.marshals.fits⟩, h⟩⟩
  have hnames : namesEqual a.policyKeyName context.expectedPolicyKeyName = true ↔
      a.policyKeyName = objectName tss (policyTPMPublic key) := by
    rw [hkeyName, namesEqual, Bool.and_eq_true, decide_eq_true_eq, decide_eq_true_eq, hvalid.policyKeyName]
    exact and_iff_right (by decide)
  have hkeyNamed : ∀ area right, namesEqual (objectName tss area) right = true ↔
      objectName tss area = right := fun _ _ => namesEqual_nameOf
  have hindexNamed : ∀ area right, namesEqual (nvNameOf tss area) right = true ↔
      nvNameOf tss area = right := fun _ _ => namesEqual_nameOf
  unfold verifyPublicCalculations
  rw [rejectIf_bind_eq_ok, bind_of_ok hpublic.name, rejectIf_bind_eq_ok, bind_of_ok (hlib.nvArea_ok hpolicy).name,
    rejectIf_bind_eq_ok, rejectIf_bind_eq_ok, rejectIf_bind_eq_ok, bind_of_ok hlib.cpHash_ok,
    rejectIf_eq_ok, not_or, not_or, Bool.not_eq_false, Bool.not_eq_false, hequal, hnames, not_not,
    Bool.not_eq_false, Bool.not_eq_false, hkeyNamed, hindexNamed, not_not, not_not, not_not]
  constructor
  · rintro ⟨⟨harea, hkeyName, -⟩, -, hindexName, hfinalPolicy, happroved, hcpHash⟩
    have hcpHash' : a.cpHash = (authorizationDigests tss a).1 := by
      rw [authorizationDigests_cpHash hvalid.offset, hcpHash]
    refine ⟨harea, hkeyName, ?_, hindexName.symm, Prod.ext hcpHash' ?_⟩
    · rw [← computeFinalPolicy_eq, hfinalPolicy]
    · rw [authorizationDigests_approved hcpHash', happroved]
  · intro h
    have hcpHash : a.cpHash = (authorizationDigests tss a).1 := congrArg Prod.fst h.digests
    have happroved : a.approvedPolicy = (authorizationDigests tss a).2 := congrArg Prod.snd h.digests
    refine ⟨⟨h.policyKeyPublic, h.policyKeyName, ?_⟩, ?_, h.nvName.symm, ?_, ?_, ?_⟩
    · rw [hfinal, keyPolicy, h.finalPolicy, h.policyKeyName, hvalid.policyRef]
    · rw [h.policyKeyName, objectName, sized_injective h.policyKeyPublic, objectName]
    · rw [computeFinalPolicy_eq, h.finalPolicy]
    · rw [happroved, authorizationDigests_approved hcpHash]
    · rw [hcpHash, authorizationDigests_cpHash hvalid.offset]

end Calculations

/-! ### The authorization for a key -/

section ForKey

variable {tss : Tss}

/-- The authorization for a key, which its target, its kind and its signature determine. -/
def policyAuthorization (tss : Tss) (key : PublicKey) (targetVersion : BitVec 64) (kind : Kind)
    (signature : TpmSignature) : Authorization where
  kind := kind
  nvIndex := recoveryNvIndex
  nvPublic := nvPublicOf tss (keyNvPublic tss key (kindText kind))
  nvName := nvNameOf tss (keyNvPublic tss key (kindText kind))
  targetVersion := targetVersion
  operand := ⟨writeU64Be targetVersion, writeU64Be_length _⟩
  offset := 0#16
  operation := if kind = .update then eoUnsignedLt else 0#16
  cpHash := (keyDigests tss key targetVersion (kindText kind)).1
  approvedPolicy := (keyDigests tss key targetVersion (kindText kind)).2
  policyRef := expectedPolicyRef
  policyKeyPublic := tpmPublicOf tss (policyTPMPublic key)
  policyKeyName := objectName tss (policyTPMPublic key)
  signature := signature
  finalPolicy := keyPolicy tss key

theorem kindText_eq {kind : Kind} (h : kind = .initialization ∨ kind = .update) :
    kindText kind = updateKind ↔ kind = .update := by
  rcases h with rfl | rfl <;> decide

/-- The index of a valid authorization is the one the gateway describes. -/
theorem ValidAuthorization.nvArea_eq {a : Authorization} (h : ValidAuthorization a) :
    a.nvPublic.nvPublic = recoveryNVPublic recoveryNvIndex a.finalPolicy (kindText a.kind = updateKind) := by
  have hnv := h.nvPublic
  simp only [nvPublicValid, Bool.and_eq_true, decide_eq_true_eq] at hnv
  obtain ⟨⟨⟨⟨⟨-, hindex⟩, hnameAlg⟩, hattributes⟩, -⟩, hdataSize⟩ := hnv
  have hwritten : decide (kindText a.kind = updateKind) = decide (a.kind = .update) :=
    decide_eq_decide.mpr (kindText_eq h.kind)
  rw [hwritten, recoveryNVPublic, ← hindex, ← hnameAlg, ← hattributes, ← h.authPolicy, ← hdataSize]

theorem nvPublicValid_recovery {size : BitVec 16} (hsize : size ≠ 0#16) (finalPolicy : PolicyDigest)
    (written : Bool) :
    nvPublicValid ⟨size, recoveryNVPublic recoveryNvIndex finalPolicy written⟩ written = true := by
  simp [nvPublicValid, recoveryNVPublic, hsize]

theorem policyPublicValid_area {size : BitVec 16} (hsize : size ≠ 0#16) {x y : Octets}
    (hx : x.length = 32) (hy : y.length = 32) : policyPublicValid ⟨size, policyArea x y⟩ = true := by
  simp [policyPublicValid, policyArea, hsize, hx, hy]

variable {key : PublicKey} {targetVersion : BitVec 64} {kind : Kind} {value : TpmSignature}
  {signature : Octets} {v : VersionAuthorization} (hkind : kind = .initialization ∨ kind = .update)

include hkind

/-- Both sides write the same map for it. -/
theorem policyRecord_item (hv : v = policyRecord tss key targetVersion (kindText kind) signature) :
    v.item = authorizationItem (policyAuthorization tss key targetVersion kind value)
      (marshalNV2B tss (keyNvPublic tss key (kindText kind)))
      (marshalPublic2B tss (policyTPMPublic key)) signature := by
  rcases hkind with rfl | rfl <;> exact congrArg VersionAuthorization.item hv

theorem policyAuthorization_checks :
    KeyChecks tss key (policyAuthorization tss key targetVersion kind value) where
  policyKeyPublic := rfl
  policyKeyName := rfl
  finalPolicy := rfl
  nvName := rfl
  digests := by
    rcases hkind with rfl | rfl <;> rfl

variable (hlib : tss.Documented)

include hlib

theorem policyAuthorization_valid (htarget : targetVersion ≠ 0#64)
    (hvalue : signatureValid value = true) :
    ValidAuthorization (policyAuthorization tss key targetVersion kind value) := by
  have hdigests : ∀ digest ∈ [(keyDigests tss key targetVersion (kindText kind)).1,
      (keyDigests tss key targetVersion (kindText kind)).2], allZero digest.toList = false := by
    intro digest hdigest
    rw [keyDigests] at hdigest
    split_ifs at hdigest
    all_goals
      simp only [List.mem_cons, List.not_mem_nil, or_false] at hdigest
      rcases hdigest with rfl | rfl <;> exact hlib.digest _
  exact {
    kind := hkind
    nvIndex := rfl
    nvPublic := by
      have hwritten : decide (kindText kind = updateKind) = decide (kind = .update) :=
        decide_eq_decide.mpr (kindText_eq hkind)
      change nvPublicValid (nvPublicOf tss _) (decide (kind = .update)) = true
      rw [← hwritten]
      exact nvPublicValid_recovery (hlib.keyNvPublic_ok key (kindText kind)).size _ _
    nvName := nameOf_length _
    target := htarget
    operand := by
      rw [operandVersion_eq]
      exact (readU64Be_self targetVersion).symm
    offset := rfl
    operation := rfl
    cpHash := hdigests _ (by simp [policyAuthorization])
    approvedPolicy := hdigests _ (by simp [policyAuthorization])
    policyRef := rfl
    policyKeyPublic := policyPublicValid_area (hlib.policyTPMPublic_ok key).size
      (fillBytes_length _ _) (fillBytes_length _ _)
    policyKeyName := nameOf_length _
    signature := hvalue
    finalPolicy := hlib.digest _
    authPolicy := rfl }

/-- The firmware accepts the object for a key. -/
theorem policyRecord_accepted {read : Octets → Option Item} (hreads : Reads qcborLimits false read)
    (hv : v = policyRecord tss key targetVersion (kindText kind) signature)
    (htarget : targetVersion ≠ 0#64) (hvalue : signatureValid value = true)
    (hencoded : tss.marshalSignature value = some signature)
    (hmarshals : Marshals signature tss.unmarshalSignature value tpmSignatureMaxSize)
    {scratch : Scratch} (hlength : scratch.length = 0)
    (hcapacity : (encode v.item).length ≤ scratch.capacity) (hoverlaps : scratch.overlaps = false) :
    decodeChecked tss read (encode v.item) scratch =
      .ok (policyAuthorization tss key targetVersion kind value) := by
  have hnv := hlib.keyNvPublic_ok key (kindText kind)
  have hpublic := hlib.policyTPMPublic_ok key
  exact (decodeChecked_iff hreads).mpr ⟨_, _, signature,
    ⟨hnv.encoded, hnv.marshals, hpublic.encoded, hpublic.marshals, hencoded, hmarshals⟩,
    congrArg encode (policyRecord_item hkind hv), policyAuthorization_valid hkind hlib htarget hvalue,
    hlength, hcapacity, hoverlaps⟩

omit hkind

/-- **A valid authorization that passes the calculations for a key is the one for that key.** -/
theorem ValidAuthorization.eq_policyAuthorization {a : Authorization} (hvalid : ValidAuthorization a)
    (hchecks : KeyChecks tss key a) {nvPublic policyPublic : Octets}
    (hstructures : Marshaled tss a nvPublic policyPublic signature) :
    a = policyAuthorization tss key a.targetVersion a.kind a.signature ∧
      nvPublic = marshalNV2B tss (keyNvPublic tss key (kindText a.kind)) ∧
      policyPublic = marshalPublic2B tss (policyTPMPublic key) := by
  have hfinal : a.finalPolicy = keyPolicy tss key := by
    rw [hchecks.finalPolicy, hchecks.policyKeyName, hvalid.policyRef, keyPolicy]
  have harea : a.nvPublic.nvPublic = keyNvPublic tss key (kindText a.kind) := by
    rw [hvalid.nvArea_eq, hfinal, keyNvPublic]
  have hname : a.nvName = nvNameOf tss (keyNvPublic tss key (kindText a.kind)) := by
    rw [hchecks.nvName, harea]
  -- the areas are those for the key, so the library reads them back with the same sizes
  have hnv := hlib.keyNvPublic_ok key (kindText a.kind)
  have hnvBytes := hstructures.nvEncoded
  rw [harea, hnv.encoded] at hnvBytes
  obtain rfl := Option.some.inj hnvBytes
  have hpublic := hlib.policyTPMPublic_ok key
  have hpublicBytes : policyPublic = marshalPublic2B tss (policyTPMPublic key) := by
    obtain ⟨s, hs, rfl⟩ := Option.map_eq_some_iff.mp hstructures.publicEncoded
    rw [← hchecks.policyKeyPublic, marshalPublic2B, hs, Option.getD_some]
  subst hpublicBytes
  have hdigests : authorizationDigests tss a = keyDigests tss key a.targetVersion (kindText a.kind) := by
    have hoperation := hvalid.operation
    unfold authorizationDigests keyDigests
    rw [hname, hvalid.operand_eq, hvalid.offset]
    rcases hvalid.kind with hkind | hkind
    · rw [hkind]
      rfl
    · rw [hkind] at hoperation ⊢
      rw [hoperation]
      rfl
  refine ⟨Authorization.ext rfl hvalid.nvIndex
    (Prod.mk.inj (Option.some.inj (hstructures.nvMarshals.back.symm.trans hnv.marshals.back))).1 hname rfl
    (Subtype.ext hvalid.operand_eq) hvalid.offset hvalid.operation
    (congrArg Prod.fst (hchecks.digests.trans hdigests))
    (congrArg Prod.snd (hchecks.digests.trans hdigests)) hvalid.policyRef
    (Prod.mk.inj (Option.some.inj (hstructures.publicMarshals.back.symm.trans hpublic.marshals.back))).1
    hchecks.policyKeyName rfl hfinal, rfl, rfl⟩

end ForKey

/-! ### What the gateway verifies -/

section Verified

variable {tss : Tss} {ecdsa : Ecdsa} {key : PublicKey} {targetVersion : BitVec 64} {kind : Kind}
  {value : TpmSignature} {signature : Octets} {v : VersionAuthorization}

/-- The signature of the approved policy is the key's. -/
def Signed (tss : Tss) (ecdsa : Ecdsa) (key : PublicKey) (a : Authorization) : Prop :=
  ∃ hash r s, a.signature.detail = .ecdsa hash r s ∧
    ecdsa.verify key (policyApprovalDigest tss a.approvedPolicy.toList a.policyRef) (bigEndian r)
      (bigEndian s) = true

variable (hvalue : signatureValid value = true)
  (hencoded : tss.marshalSignature value = some signature)
  (hmarshals : Marshals signature tss.unmarshalSignature value tpmSignatureMaxSize)
  (hsigned : Signed tss ecdsa key (policyAuthorization tss key targetVersion kind value))

include hvalue hencoded hmarshals hsigned

theorem verifySignature_ok :
    verifySignature tss ecdsa key (policyApprovalDigest tss
      (keyDigests tss key targetVersion (kindText kind)).2.toList expectedPolicyRef) signature =
      .ok () := by
  obtain ⟨hash, r, s, hdetail, hverify⟩ := hsigned
  change value.detail = _ at hdetail
  rw [signatureValid, hdetail] at hvalue
  simp only [Bool.and_eq_true, decide_eq_true_eq] at hvalue
  obtain ⟨⟨⟨⟨⟨hsigAlg, hhash⟩, -⟩, -⟩, -⟩, -⟩ := hvalue
  have hform : ¬ (signature.length ≠ signature.length ∨
      (tss.marshalSignature value).getD [] ≠ signature ∨ value.sigAlg ≠ algEcdsa) := by
    rw [hencoded, Option.getD_some, hsigAlg]
    simp
  unfold verifySignature
  simp only [hmarshals.back, hdetail]
  rw [if_neg hform, if_neg (not_not.mpr hhash), if_neg]
  exact Bool.not_eq_false _ ▸ hverify

variable (hv : v = policyRecord tss key targetVersion (kindText kind) signature)
  (hkind : kind = .initialization ∨ kind = .update) (hlib : tss.Documented)
  (htarget : targetVersion ≠ 0#64)

include hv hkind hlib htarget

omit hvalue hencoded hsigned in
theorem policyRecord_shapeValid : v.shapeValid = true := by
  have hnv := (hlib.keyNvPublic_ok key (kindText kind)).marshals
  have hpublic := (hlib.policyTPMPublic_ok key).marshals
  have hpositive : ∀ {s : Octets}, s ≠ [] → 0 < s.length := fun h => List.length_pos_iff.mpr h
  have htexts : (v.kind = initializationKind ∧ v.domain = initializationDomain) ∨
      (v.kind = updateKind ∧ v.domain = updateDomain) := by
    rcases hkind with rfl | rfl
    · exact .inl ⟨hv ▸ rfl, hv ▸ rfl⟩
    · exact .inr ⟨hv ▸ rfl, hv ▸ rfl⟩
  subst hv
  simp only [VersionAuthorization.shapeValid, Bool.and_eq_true, Bool.or_eq_true, decide_eq_true_eq,
    and_assoc]
  exact ⟨htexts, rfl, rfl, htarget, hpositive hnv.nonempty, Nat.le_trans hnv.fits (by decide),
    nameOf_length _, rfl, List.Vector.toList_length _, List.Vector.toList_length _,
    of_decide_eq_true rfl, of_decide_eq_true rfl,
    hpositive hpublic.nonempty, hpublic.fits, nameOf_length _, hpositive hmarshals.nonempty,
    hmarshals.fits, List.Vector.toList_length _⟩

/-- **The gateway verifies the object for a key** that the key signed. -/
theorem policyRecord_verified {unmarshal : Octets → Option VersionAuthorization}
    (hrecords : ReadsRecords policyLimits VersionAuthorization.item unmarshal)
    (hkey : validPolicyPublicKey key = true) {current : BitVec 64}
    (hcurrent : kind = .update → current < targetVersion) :
    verifyPolicyAuthorization tss ecdsa unmarshal (encode v.item) key recoveryNvIndex (kindText kind)
      current = .ok v := by
  have hnv := (hlib.keyNvPublic_ok key (kindText kind)).marshals
  have hpublic := (hlib.policyTPMPublic_ok key).marshals
  have hvalid : ValidAuthorization (policyAuthorization tss key targetVersion kind value) :=
    policyAuthorization_valid hkind hlib htarget hvalue
  have hitem : v.item =
      authorizationItem (policyAuthorization tss key targetVersion kind value) _ _ signature :=
    policyRecord_item hkind hv
  have hunmarshal : unmarshal (encode v.item) = some v := by
    refine hrecords _ ?_
    rw [hitem]
    exact hvalid.item_within true (by decide) hnv.fits hpublic.fits hmarshals.fits
  have hmax : (encode v.item).length ≤ objectMaxSize := by
    rw [hitem]
    exact authorizationItem_length hnv.fits hpublic.fits hmarshals.fits hvalid.nvName rfl
      hvalid.policyKeyName
  have hshape := policyRecord_shapeValid hmarshals hv hkind hlib htarget
  have hcanonicalPublic : canonicalTPM2BPublic tss (marshalPublic2B tss (policyTPMPublic key)) = true := by
    simp [canonicalTPM2BPublic, hpublic.back, tpmPublicOf]
  have hcanonicalNv :
      canonicalTPM2BNVPublic tss (marshalNV2B tss (keyNvPublic tss key (kindText kind))) = true := by
    simp [canonicalTPM2BNVPublic, hnv.back, nvPublicOf]
  have hdigests : expectedDigests tss (kindText kind) v
      (nvNameOf tss (keyNvPublic tss key (kindText kind))) (writeU64Be targetVersion) =
        .ok (keyDigests tss key targetVersion (kindText kind)) := by
    rcases hkind with rfl | rfl <;> exact hv ▸ rfl
  have hnewer : ¬ (kindText kind = updateKind ∧ targetVersion ≤ current) := fun ⟨h, hle⟩ =>
    absurd (hcurrent ((kindText_eq hkind).mp h)) (BitVec.not_lt.mpr hle)
  subst hv
  simp only [verifyPolicyAuthorization, bind_eq_ok, rejectIf_eq_ok, exists_const, orReject_eq_ok, not_or,
    not_not, Bool.not_eq_false, Nat.not_lt]
  exact ⟨⟨encode_ne_nil _, hmax, hkey, trivial⟩, _, hunmarshal, ⟨rfl, hshape, rfl⟩, ⟨rfl, hnewer⟩,
    hcanonicalPublic, ⟨rfl, rfl⟩, rfl, hcanonicalNv, ⟨rfl, rfl⟩, ⟨rfl, rfl, rfl⟩, _, hdigests,
    ⟨rfl, rfl⟩, (), verifySignature_ok hvalue hencoded hmarshals hsigned, rfl⟩

end Verified

/-! ### Agreement -/

theorem recoveryPolicyDecode_ok {tss : Tss} {read : Octets → Option Item} {encoded : Octets}
    {scratch : Scratch} {a : Authorization} :
    recoveryPolicyDecode tss read encoded scratch = (.ok, a) ↔
      decodeChecked tss read encoded scratch = .ok a := by
  unfold recoveryPolicyDecode
  cases h : decodeChecked tss read encoded scratch with
  | ok decoded => simp
  | error status => simp [decodeChecked_error status h]

/-- What `createPolicyAuthorization` gives. -/
theorem createPolicyAuthorization_eq (tss : Tss) {ecdsa : Ecdsa} {privateKey : PrivateKey} {kind : Kind}
    {targetVersion : BitVec 64} (hkey : validPolicyPrivateKey ecdsa privateKey = true)
    (hkind : kind = .initialization ∨ kind = .update) (htarget : targetVersion ≠ 0#64) :
    ∃ signed : Option (ℕ × ℕ),
      createPolicyAuthorization tss ecdsa privateKey recoveryNvIndex targetVersion (kindText kind) =
        .ok (signed.map fun (r, s) => encode (policyRecord tss privateKey.publicKey targetVersion
          (kindText kind) ((tss.marshalSignature (ecdsaSignature r s)).getD [])).item) := by
  have hinput : ¬ (validPolicyPrivateKey ecdsa privateKey = false ∨ recoveryNvIndex ≠ recoveryNvIndex ∨
      targetVersion = 0#64 ∨ (kindText kind ≠ initializationKind ∧ kindText kind ≠ updateKind)) := by
    rcases hkind with rfl | rfl <;> simp [hkey, htarget, kindText]
  unfold createPolicyAuthorization
  rw [rejectIf_bind_of_not hinput]
  exact ⟨_, rfl⟩

/-- The fields the two sides are to agree on. -/
structure Same (a : Authorization) (v : VersionAuthorization) : Prop where
  kind : v.kind = kindText a.kind
  targetVersion : v.targetVersion = a.targetVersion
  operand : v.operand = some a.operand.toList
  nvName : v.nvName = some a.nvName
  policyKeyName : v.policyKeyName = some a.policyKeyName
  cpHash : v.cpHash = some a.cpHash.toList
  approvedPolicy : v.approvedPolicy = some a.approvedPolicy.toList
  finalPolicy : v.finalPolicy = some a.finalPolicy.toList

theorem policyRecord_same (tss : Tss) (key : PublicKey) (targetVersion : BitVec 64) (kind : Kind)
    (value : TpmSignature) (signature : Octets) :
    Same (policyAuthorization tss key targetVersion kind value)
      (policyRecord tss key targetVersion (kindText kind) signature) :=
  ⟨rfl, rfl, rfl, rfl, rfl, rfl, rfl, rfl⟩

def sampleTss : Tss where
  sha256 _ := List.Vector.replicate 32 1#8
  marshalNv area := some (writeU32Be area.nvIndex ++ (writeU32Be (area.nameAlg.setWidth 32) ++
    (writeU32Be area.attributes ++ (writeU32Be (area.dataSize.setWidth 32) ++ area.authPolicy))))
  marshalPublic area :=
    match area.detail with
    | .ecc _ x y => some (x ++ y)
    | .other _ => none
  marshalSignature signature :=
    match signature.detail with
    | .ecdsa _ r s => some (r ++ s)
    | .other _ => none
  unmarshalNv encoded :=
    let s := encoded.drop 2
    some (⟨BitVec.ofNat 16 s.length, ⟨readU32Be s, (readU32Be (s.drop 4)).setWidth 16,
      readU32Be (s.drop 8), s.drop 16, (readU32Be (s.drop 12)).setWidth 16⟩⟩, encoded.length)
  unmarshalPublic encoded :=
    let s := encoded.drop 2
    some (⟨BitVec.ofNat 16 s.length, policyArea (s.take 32) (s.drop 32)⟩, encoded.length)
  unmarshalSignature encoded :=
    some (⟨algEcdsa, .ecdsa algSha256 (encoded.take 32) (encoded.drop 32)⟩, encoded.length)
  nvWritePrepare _ _ _ := rcSuccess
  nvWriteCpBuffer _ data offset := some (sized data ++ u16Be offset)

theorem sampleTss_documented : sampleTss.Documented where
  publicArea x y hx hy := by
    refine ⟨x ++ y, rfl, ?_, ?_, ?_, ?_⟩
    · exact List.ne_nil_of_length_pos (by rw [List.length_append, hx]; omega)
    · nofun
    · rw [sized_length, List.length_append, hx, hy]
      decide
    · change some ((⟨_, policyArea ((x ++ y).take 32) ((x ++ y).drop 32)⟩ : TpmPublic), _) = _
      rw [List.take_left' hx, List.drop_left' hx]
      rfl
  nvArea area h := by
    refine ⟨_, rfl, by nofun, by nofun, ?_, ?_⟩
    · simp only [sized_length, List.length_append, writeU32Be_length, h]
      decide
    · have hread : ∀ (v : BitVec 32) (t : Octets), readU32Be (writeU32Be v ++ t) = v :=
        readU32Be_writeU32Be
      change some ((⟨_, ⟨readU32Be (writeU32Be _ ++ _), (readU32Be (writeU32Be _ ++ _)).setWidth 16,
        readU32Be (writeU32Be _ ++ _), area.authPolicy, (readU32Be (writeU32Be _ ++ _)).setWidth 16⟩⟩ :
          NvPublic), _) = _
      rw [hread, hread, hread, hread, BitVec.setWidth_setWidth_of_le _ (by decide),
        BitVec.setWidth_setWidth_of_le _ (by decide), BitVec.setWidth_eq, BitVec.setWidth_eq]
      rfl
  signature r s hr hs := by
    refine ⟨r ++ s, rfl, ?_, ?_, ?_⟩
    · exact List.ne_nil_of_length_pos (by rw [List.length_append, hr]; omega)
    · rw [List.length_append, hr, hs]
      decide
    · change some ((⟨_, .ecdsa _ ((r ++ s).take 32) ((r ++ s).drop 32)⟩ : TpmSignature), _) = _
      rw [List.take_left' hr, List.drop_left' hr]
  prepare _ _ _ := rfl
  cpBuffer _ _ _ := rfl
  digest _ := by
    change allZero (List.Vector.replicate 32 1#8).toList = false
    decide

def samplePrivateKey : PrivateKey where
  d := 1
  publicKey :=
    ⟨0x6b17d1f2e12c4247f8bce6e563a440f277037d812deb33a0f4a13945d898c296,
      0x4fe342e2fe1a7f9b8ee7eb4a7c0f9e162bce33576b315ececbb6406837bf51f5⟩

def sampleEcdsa : Ecdsa where
  order := 2
  scalarBaseMult _ := samplePrivateKey.publicKey
  sign _ _ := some (1, 1)
  verify _ _ _ _ := true

/-- A record from its item. -/
def recordFrom : Item → Option VersionAuthorization
  | .map [(_, .text domain), (_, .int version), (_, .text kind), (_, .int nvIndex), (_, nvPublic),
      (_, nvName), (_, .int targetVersion), (_, operand), (_, .int offset), (_, .int operation),
      (_, cpHash), (_, approvedPolicy), (_, policyRef), (_, policyKeyPublic), (_, policyKeyName),
      (_, signature), (_, finalPolicy)] =>
    some {
      domain
      version := BitVec.ofNat 64 version.toNat
      kind
      nvIndex := BitVec.ofNat 32 nvIndex.toNat
      nvPublic := NilBytes.ofItem nvPublic
      nvName := NilBytes.ofItem nvName
      targetVersion := BitVec.ofNat 64 targetVersion.toNat
      operand := NilBytes.ofItem operand
      offset := BitVec.ofNat 16 offset.toNat
      operation := BitVec.ofNat 16 operation.toNat
      cpHash := NilBytes.ofItem cpHash
      approvedPolicy := NilBytes.ofItem approvedPolicy
      policyRef := NilBytes.ofItem policyRef
      policyKeyPublic := NilBytes.ofItem policyKeyPublic
      policyKeyName := NilBytes.ofItem policyKeyName
      signature := NilBytes.ofItem signature
      finalPolicy := NilBytes.ofItem finalPolicy }
  | _ => none

theorem recordFrom_item (v : VersionAuthorization) : recordFrom v.item = some v := by
  simp only [recordFrom, VersionAuthorization.item, NilBytes.ofItem_item, Int.toNat_natCast,
    BitVec.ofNat_toNat, BitVec.setWidth_eq]

end Pbns.Policy
