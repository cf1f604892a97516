/-
Credentials and their encoding (`pico/src/credentials.c`, first part).

As for error reports, little is assumed about the decoder library: credentials that
were decoded are encoded again and compared with the input.

* `canonical_injective` — valid credentials with one encoding are equal;
* `credentialsDecodeCbor_ok` — what is decoded is valid and encodes to the input;
* `credentials_canonical` — encoding and decoding are inverse to each other.
-/
import Pbns.RemoteError

namespace Pbns

open Octets Guard

/-- `pbns_credentials`; each list is an array up to its length field. -/
structure Credentials where
  ssid : Octets
  psk : Octets
  hostname : Octets
  port : BitVec 16
  spkiSha256 : OctetArray 32
  deriving DecidableEq

def credentialsZero : Credentials := ⟨[], [], [], 0#16, List.Vector.replicate 32 0#8⟩

def credentialsVersion : ℕ := 1
def credentialsSsidMax : ℕ := 32
def credentialsPskMax : ℕ := 63
def credentialsHostnameMax : ℕ := 253
def credentialsCborMax : ℕ := 448

/-- `utf8_is_valid` of this file. -/
def credentialsUtf8IsValid : Octets → Bool
  | [] => true
  | first :: rest =>
    if first ≤ 0x7f#8 then credentialsUtf8IsValid rest
    else if 0xc2#8 ≤ first ∧ first ≤ 0xdf#8 then
      match rest with
      | second :: rest => continuation second && credentialsUtf8IsValid rest
      | _ => false
    else if 0xe0#8 ≤ first ∧ first ≤ 0xef#8 then
      match rest with
      | second :: third :: rest =>
        let secondValid :=
          (first == 0xe0#8 && 0xa0#8 ≤ second && second ≤ 0xbf#8) ||
          (first == 0xed#8 && 0x80#8 ≤ second && second ≤ 0x9f#8) ||
          ((0xe1#8 ≤ first && first ≤ 0xec#8 || 0xee#8 ≤ first && first ≤ 0xef#8) &&
            continuation second)
        secondValid && continuation third && credentialsUtf8IsValid rest
      | _ => false
    else if 0xf0#8 ≤ first ∧ first ≤ 0xf4#8 then
      match rest with
      | second :: third :: fourth :: rest =>
        let secondValid :=
          (first == 0xf0#8 && 0x90#8 ≤ second && second ≤ 0xbf#8) ||
          (first == 0xf4#8 && 0x80#8 ≤ second && second ≤ 0x8f#8) ||
          (0xf1#8 ≤ first && first ≤ 0xf3#8 && continuation second)
        secondValid && continuation third && continuation fourth && credentialsUtf8IsValid rest
      | _ => false
    else false

def containsZero (text : Octets) : Bool := text.any (· == 0#8)

def validateCredentials (credentials : Credentials) : Except Status Unit := do
  rejectIf (credentialsSsidMax < credentials.ssid.length ∨
    credentialsPskMax < credentials.psk.length ∨
    credentialsHostnameMax < credentials.hostname.length) .errLimit
  rejectIf (credentials.ssid.length = 0 ∨ credentials.psk.length = 0 ∨
    credentials.hostname.length = 0 ∨ credentials.port = 0#16) .errFormat
  rejectIf (credentialsUtf8IsValid credentials.ssid = false ∨ containsZero credentials.ssid = true ∨
    containsZero credentials.psk = true ∨ credentialsUtf8IsValid credentials.hostname = false ∨
    containsZero credentials.hostname = true) .errFormat

/-- What the encoder of `encode_canonical` writes. -/
def Credentials.canonical (credentials : Credentials) : Octets :=
  Cbor.mapHead 6 ++ (Cbor.uint 1 ++ (Cbor.uint credentialsVersion ++
    (Cbor.uint 2 ++ (Cbor.bytes credentials.ssid ++
    (Cbor.uint 3 ++ (Cbor.bytes credentials.psk ++
    (Cbor.uint 4 ++ (Cbor.text credentials.hostname ++
    (Cbor.uint 5 ++ (Cbor.uint credentials.port.toNat ++
    (Cbor.uint 6 ++ Cbor.bytes credentials.spkiSha256.toList)))))))))))

/-- `encode_canonical` into a buffer of `cap` octets. -/
def encodeCanonical (credentials : Credentials) (cap : ℕ) : Except Status Octets := do
  rejectIf (cap < credentials.canonical.length) .errLimit
  .ok credentials.canonical

/-- `pbns_credentials_encode_cbor`. -/
def credentialsEncodeCbor (credentials : Credentials) (cap : ℕ) : Except Status Octets := do
  validateCredentials credentials
  encodeCanonical credentials cap

def itemBytes : QcborValue → Option Octets
  | .bytes s => some s
  | _ => none

def octetArray (n : ℕ) (s : Octets) : Option (OctetArray n) :=
  if h : s.length = n then some ⟨s, h⟩ else none

/-- `pbns_credentials_decode_cbor`. -/
def credentialsDecodeCbor {δ : Type} (q : Qcbor δ) (encoded : Octets) : Except Status Credentials := do
  rejectIf (encoded.length = 0) .errFormat
  rejectIf (credentialsCborMax < encoded.length) .errLimit
  let (item, decoder) ← orReject .errFormat (q.getNext (q.decodeInit encoded))
  rejectIf (item.value ≠ .map 6 ∨ item.label ≠ .none) .errFormat
  let (versionItem, decoder) ← nextLabeledItem q decoder 1
  let version ← orReject .errFormat (itemToUint64 versionItem)
  rejectIf (version ≠ credentialsVersion) .errVersion
  let (ssidItem, decoder) ← nextLabeledItem q decoder 2
  let ssid ← orReject .errFormat (itemBytes ssidItem)
  rejectIf (credentialsSsidMax < ssid.length) .errLimit
  let (pskItem, decoder) ← nextLabeledItem q decoder 3
  let psk ← orReject .errFormat (itemBytes pskItem)
  rejectIf (credentialsPskMax < psk.length) .errLimit
  let (hostnameItem, decoder) ← nextLabeledItem q decoder 4
  let hostname ← orReject .errFormat (itemText hostnameItem)
  rejectIf (credentialsHostnameMax < hostname.length) .errLimit
  let (portItem, decoder) ← nextLabeledItem q decoder 5
  let port ← orReject .errFormat (itemToUint64 portItem)
  rejectIf (2 ^ 16 - 1 < port) .errFormat
  let (spkiItem, decoder) ← nextLabeledItem q decoder 6
  let spki ← orReject .errFormat (itemBytes spkiItem)
  let spkiSha256 ← orReject .errFormat (octetArray 32 spki)
  rejectIf (q.finish decoder = false) .errFormat
  let parsed : Credentials := ⟨ssid, psk, hostname, BitVec.ofNat 16 port, spkiSha256⟩
  validateCredentials parsed
  let canonical ← encodeCanonical parsed credentialsCborMax
  rejectIf (canonical ≠ encoded) .errFormat
  .ok parsed

theorem validateCredentials_limits {credentials : Credentials}
    (h : validateCredentials credentials = .ok ()) :
    credentials.ssid.length ≤ 32 ∧ credentials.psk.length ≤ 63 ∧ credentials.hostname.length ≤ 253 := by
  obtain ⟨hlimits, -⟩ := rejectIf_bind_eq_ok.mp h
  simp only [credentialsSsidMax, credentialsPskMax, credentialsHostnameMax] at hlimits
  omega

/-- **Valid credentials can be told from their encoding.** -/
theorem canonical_injective {a b : Credentials} (ha : validateCredentials a = .ok ())
    (hb : validateCredentials b = .ok ()) (h : a.canonical = b.canonical) : a = b := by
  obtain ⟨hassid, hapsk, hahost⟩ := validateCredentials_limits ha
  obtain ⟨hbssid, hbpsk, hbhost⟩ := validateCredentials_limits hb
  have skip : ∀ {n : ℕ} {s t : Octets}, Cbor.uint n ++ s = Cbor.uint n ++ t → s = t :=
    fun h => List.append_cancel_left h
  rw [Credentials.canonical, Credentials.canonical] at h
  -- field by field, each item is told from the rest
  obtain ⟨hssid, h⟩ := Cbor.bytes_append_inj (by omega) (by omega)
    (skip (skip (skip (List.append_cancel_left h))))
  obtain ⟨hpsk, h⟩ := Cbor.bytes_append_inj (by omega) (by omega) (skip h)
  obtain ⟨hhost, h⟩ := Cbor.text_append_inj (by omega) (by omega) (skip h)
  have hport16 : ∀ p : BitVec 16, p.toNat < 2 ^ 64 := fun p => Nat.lt_trans p.isLt (by decide)
  obtain ⟨hport, h⟩ := Cbor.head_append_inj (by decide) (hport16 _) (hport16 _) (skip h)
  have hspki := List.append_inj_right (skip h) (by simp)
  obtain ⟨ssid, psk, hostname, port, spki⟩ := a
  obtain ⟨ssid', psk', hostname', port', spki'⟩ := b
  obtain rfl : ssid = ssid' := hssid
  obtain rfl : psk = psk' := hpsk
  obtain rfl : hostname = hostname' := hhost
  obtain rfl : port = port' := BitVec.eq_of_toNat_eq hport
  obtain rfl : spki = spki' := List.Vector.eq _ _ hspki
  rfl

/-- **What is decoded** is valid, and encodes to the input. -/
theorem credentialsDecodeCbor_ok {δ : Type} {q : Qcbor δ} {encoded : Octets}
    {credentials : Credentials} (h : credentialsDecodeCbor q encoded = .ok credentials) :
    validateCredentials credentials = .ok () ∧ credentials.canonical = encoded := by
  revert h
  -- however the fields were read, the checks at the end decide
  refine Returns.bind (P := fun c => validateCredentials c = .ok () ∧ c.canonical = encoded) (fun _ =>
    .bind fun _ => .bind fun ⟨_, _⟩ => .bind fun _ => .bind fun ⟨_, _⟩ => .bind fun _ => .bind fun _ =>
    .bind fun ⟨_, _⟩ => .bind fun _ => .bind fun _ => .bind fun ⟨_, _⟩ => .bind fun _ => .bind fun _ =>
    .bind fun ⟨_, _⟩ => .bind fun _ => .bind fun _ => .bind fun ⟨_, _⟩ => .bind fun _ => .bind fun _ =>
    .bind fun ⟨_, _⟩ => .bind fun _ => .bind fun _ => .bind fun _ => ?_) credentials
  intro parsed h
  obtain ⟨_, hvalid, h⟩ := bind_eq_ok.mp h
  obtain ⟨canonical, hcanonical, h⟩ := bind_eq_ok.mp h
  obtain ⟨hsame, h⟩ := rejectIf_bind_eq_ok.mp h
  obtain rfl := Except.ok.inj h
  obtain ⟨-, hcanonical⟩ := rejectIf_bind_eq_ok.mp hcanonical
  exact ⟨hvalid, (Except.ok.inj hcanonical).trans (not_not.mp hsame)⟩

/-! ### Both directions -/

/-- The call with the memory behind its output argument, which is cleared first. -/
def credentialsDecodeInto {δ : Type} (q : Qcbor δ) (encoded : Octets) :
    Except Status Unit × Credentials :=
  match credentialsDecodeCbor q encoded with
  | .ok parsed => (.ok (), parsed)
  | .error status => (.error status, credentialsZero)

theorem credentialsDecodeInto_eq_ok {δ : Type} {q : Qcbor δ} {encoded : Octets}
    {credentials : Credentials} : credentialsDecodeInto q encoded = (.ok (), credentials) ↔
      credentialsDecodeCbor q encoded = .ok credentials := by
  unfold credentialsDecodeInto
  cases credentialsDecodeCbor q encoded <;> simp

/-- The items the library finds in an encoding. -/
def Credentials.items (credentials : Credentials) : List QcborItem :=
  [⟨.map 6, .none, 0⟩, ⟨.int64 1, .int64 1, 1⟩, ⟨.bytes credentials.ssid, .int64 2, 1⟩,
    ⟨.bytes credentials.psk, .int64 3, 1⟩, ⟨.text credentials.hostname, .int64 4, 1⟩,
    ⟨.int64 credentials.port.toNat, .int64 5, 1⟩,
    ⟨.bytes credentials.spkiSha256.toList, .int64 6, 1⟩]

/-- The library reads what the encoder writes. -/
def Qcbor.ReadsCredentials {δ : Type} (q : Qcbor δ) : Prop :=
  ∀ credentials, validateCredentials credentials = .ok () →
    q.Reads (q.decodeInit credentials.canonical) credentials.items

theorem octetArray_toList {n : ℕ} (v : OctetArray n) : octetArray n v.toList = some v := by
  rw [octetArray, dif_pos v.toList_length]
  exact congrArg some (Subtype.ext rfl)

variable {credentials : Credentials} (h : validateCredentials credentials = .ok ())

include h

/-- The worst case is far from the size of the buffers. -/
theorem canonical_length : credentials.canonical.length ≤ credentialsCborMax := by
  obtain ⟨hssid, hpsk, hhost⟩ := validateCredentials_limits h
  have hhead : ∀ major n, n < 2 ^ 16 → (Cbor.head major n).length ≤ 3 := by
    intro major n hn
    rw [Cbor.head]
    split_ifs <;> simp
  have hlabel : ∀ n < 7, (Cbor.head Cbor.majorUnsigned n).length = 1 := by decide
  have hssidHead := hhead Cbor.majorBytes credentials.ssid.length (by omega)
  have hpskHead := hhead Cbor.majorBytes credentials.psk.length (by omega)
  have hhostHead := hhead Cbor.majorText credentials.hostname.length (by omega)
  have hportHead := hhead Cbor.majorUnsigned _ credentials.port.isLt
  have hfixed : (Cbor.head Cbor.majorMap 6).length = 1 ∧ (Cbor.head Cbor.majorBytes 32).length = 2 := by
    decide
  simp only [Credentials.canonical, Cbor.uint, Cbor.bytes, Cbor.text, Cbor.mapHead,
    List.length_append, List.Vector.toList_length, credentialsVersion, hlabel 1 (by decide),
    hlabel 2 (by decide), hlabel 3 (by decide), hlabel 4 (by decide), hlabel 5 (by decide),
    hlabel 6 (by decide), hfixed, credentialsCborMax]
  generalize (Cbor.head Cbor.majorBytes credentials.ssid.length).length = ssidHead at *
  generalize (Cbor.head Cbor.majorBytes credentials.psk.length).length = pskHead at *
  generalize (Cbor.head Cbor.majorText credentials.hostname.length).length = hostHead at *
  generalize (Cbor.head Cbor.majorUnsigned credentials.port.toNat).length = portHead at *
  omega

theorem credentialsEncodeCbor_eq {cap : ℕ} (hcap : credentialsCborMax ≤ cap) :
    credentialsEncodeCbor credentials cap = .ok credentials.canonical := by
  have hroom : ¬ cap < credentials.canonical.length :=
    Nat.not_lt.mpr (Nat.le_trans (canonical_length h) hcap)
  rw [credentialsEncodeCbor, bind_of_ok h, encodeCanonical, rejectIf_bind_of_not hroom]

/-- **What is encoded can be decoded.** -/
theorem credentialsDecodeCbor_canonical {δ : Type} {q : Qcbor δ} (hq : q.ReadsCredentials) :
    credentialsDecodeCbor q credentials.canonical = .ok credentials := by
  obtain ⟨hssid, hpsk, hhost⟩ := validateCredentials_limits h
  have hlength := canonical_length h
  have hne : credentials.canonical.length ≠ 0 := by simp [Credentials.canonical, Cbor.mapHead, Cbor.head]
  obtain ⟨d₀, h₀, d₁, h₁, d₂, h₂, d₃, h₃, d₄, h₄, d₅, h₅, d₆, h₆, hfinish⟩ := hq _ h
  have hfinish : q.finish d₆ = true := hfinish
  have hport : credentials.port.toNat ≤ 65535 := Nat.le_of_lt_succ credentials.port.isLt
  simp only [credentialsDecodeCbor, h₀, nextLabeledItem_of_getNext h₁, nextLabeledItem_of_getNext h₂,
    nextLabeledItem_of_getNext h₃, nextLabeledItem_of_getNext h₄, nextLabeledItem_of_getNext h₅,
    nextLabeledItem_of_getNext h₆, orReject, bind_ok, itemToUint64, itemBytes, itemText,
    octetArray_toList]
  simp [rejectIf, credentialsVersion, credentialsSsidMax, credentialsPskMax, credentialsHostnameMax,
    hne, Nat.not_lt.mpr hlength, Nat.not_lt.mpr hssid, Nat.not_lt.mpr hpsk, Nat.not_lt.mpr hhost,
    Nat.not_lt.mpr hport, hfinish, h, encodeCanonical]

omit h

/-- **The encoding of credentials is canonical.**  Valid credentials are encoded in the room there
is and decoded again; what is decoded is valid, and its encoding is the input and nothing else; a
refused input leaves the output cleared. -/
theorem credentials_canonical {δ : Type} {q : Qcbor δ} (hq : q.ReadsCredentials) :
    (∀ credentials, validateCredentials credentials = .ok () → ∀ cap, credentialsCborMax ≤ cap →
      ∃ encoded, credentialsEncodeCbor credentials cap = .ok encoded ∧
        encoded.length ≤ credentialsCborMax ∧
        credentialsDecodeInto q encoded = (.ok (), credentials)) ∧
    (∀ encoded credentials, credentialsDecodeInto q encoded = (.ok (), credentials) →
      validateCredentials credentials = .ok () ∧ ∀ cap, credentialsCborMax ≤ cap →
        ∀ encoded', credentialsEncodeCbor credentials cap = .ok encoded' ↔ encoded' = encoded) ∧
    ∀ encoded, (credentialsDecodeInto q encoded).1 ≠ .ok () →
      (credentialsDecodeInto q encoded).2 = credentialsZero := by
  refine ⟨?_, ?_, ?_⟩
  · intro credentials h cap hcap
    exact ⟨_, credentialsEncodeCbor_eq h hcap, canonical_length h,
      credentialsDecodeInto_eq_ok.mpr (credentialsDecodeCbor_canonical h hq)⟩
  · intro encoded credentials h
    obtain ⟨hvalid, rfl⟩ := credentialsDecodeCbor_ok (credentialsDecodeInto_eq_ok.mp h)
    refine ⟨hvalid, fun cap hcap encoded' => ?_⟩
    rw [credentialsEncodeCbor_eq hvalid hcap, Except.ok.injEq]
    exact eq_comm
  · intro encoded h
    unfold credentialsDecodeInto at h ⊢
    split
    · rename_i parsed hdecode
      rw [hdecode] at h
      exact absurd rfl h
    · rfl

open Classical in
/-- A library that knows the encodings of credentials. -/
noncomputable def credentialsReader : Qcbor (List QcborItem) where
  decodeInit encoded :=
    if h : ∃ credentials, validateCredentials credentials = .ok () ∧ credentials.canonical = encoded
    then h.choose.items else []
  getNext
    | [] => none
    | item :: rest => some (item, rest)
  finish rest := rest.isEmpty

theorem credentialsReader_reads : credentialsReader.ReadsCredentials := by
  intro credentials h
  have hfound : ∃ c : Credentials, validateCredentials c = .ok () ∧ c.canonical = credentials.canonical :=
    ⟨credentials, h, rfl⟩
  have hsame : hfound.choose = credentials :=
    canonical_injective hfound.choose_spec.1 h hfound.choose_spec.2
  have hitems : credentialsReader.decodeInit credentials.canonical = credentials.items :=
    (dif_pos hfound).trans (congrArg Credentials.items hsame)
  rw [hitems]
  exact ⟨_, rfl, _, rfl, _, rfl, _, rfl, _, rfl, _, rfl, _, rfl, rfl⟩

theorem credentials_canonical_sample : ∃ encoded,
    credentialsEncodeCbor ⟨[1#8], [2#8], [3#8], 4#16, List.Vector.replicate 32 5#8⟩ 448 = .ok encoded ∧
      encoded.length ≤ credentialsCborMax ∧ credentialsDecodeInto credentialsReader encoded =
        (.ok (), ⟨[1#8], [2#8], [3#8], 4#16, List.Vector.replicate 32 5#8⟩) :=
  (credentials_canonical credentialsReader_reads).1 _ (by decide) 448 (by decide)

end Pbns
