/-
The error report a peer sends (`decode_remote_error` and `utf8_is_valid` of
`src/core/broker.c`).

The decoder library is a parameter: what it returns for an input is not assumed.
The report is re-encoded here and compared with what arrived, so a report that is
accepted is the canonical one whatever the decoder did.
-/
import Pbns.Cbor
import Pbns.FrameTypes
import Pbns.Utf8

namespace Pbns

open Octets Guard

/-- The part of `QCBORItem` the program looks at. -/
inductive QcborValue
  | int64 (value : Int)
  | uint64 (value : ℕ)
  | bytes (s : Octets)
  | text (s : Octets)
  | array (count : ℕ)
  | map (count : ℕ)
  | other
  deriving DecidableEq

inductive QcborLabel
  | none
  | int64 (value : Int)
  | other
  deriving DecidableEq

structure QcborItem where
  value : QcborValue
  label : QcborLabel
  nestingLevel : ℕ
  deriving DecidableEq

/-- The decoder library, with its context type. -/
structure Qcbor (δ : Type) where
  decodeInit : Octets → δ
  getNext : δ → Option (QcborItem × δ)
  finish : δ → Bool

def continuation (b : Octet) : Bool := 0x80#8 ≤ b && b ≤ 0xbf#8

/-- `utf8_is_valid`. -/
def utf8IsValid : Octets → Bool
  | [] => true
  | first :: rest =>
    if first ≤ 0x7f#8 then utf8IsValid rest
    else if 0xc2#8 ≤ first ∧ first ≤ 0xdf#8 then
      match rest with
      | second :: rest => continuation second && utf8IsValid rest
      | _ => false
    else if 0xe0#8 ≤ first ∧ first ≤ 0xef#8 then
      match rest with
      | second :: third :: rest =>
        (if first = 0xe0#8 then 0xa0#8 else 0x80#8) ≤ second &&
          second ≤ (if first = 0xed#8 then 0x9f#8 else 0xbf#8) &&
          continuation third && utf8IsValid rest
      | _ => false
    else if 0xf0#8 ≤ first ∧ first ≤ 0xf4#8 then
      match rest with
      | second :: third :: fourth :: rest =>
        (if first = 0xf0#8 then 0x90#8 else 0x80#8) ≤ second &&
          second ≤ (if first = 0xf4#8 then 0x8f#8 else 0xbf#8) &&
          continuation third && continuation fourth && utf8IsValid rest
      | _ => false
    else false

section Utf8

open Utf8

theorem continuation_iff {b : Octet} : continuation b = true ↔ 0x80 ≤ b.toNat ∧ b.toNat ≤ 0xbf := by
  simp [continuation, BitVec.le_def]

theorem ite_le_octet {a b x y c : Octet} :
    (if a = b then x else y) ≤ c ↔ (if a.toNat = b.toNat then x.toNat else y.toNat) ≤ c.toNat := by
  simp only [BitVec.le_def, apply_ite BitVec.toNat, BitVec.toNat_inj]

theorem le_ite_octet {a b x y c : Octet} :
    c ≤ (if a = b then x else y) ↔ c.toNat ≤ (if a.toNat = b.toNat then x.toNat else y.toNat) := by
  simp only [BitVec.le_def, apply_ite BitVec.toNat, BitVec.toNat_inj]

/-- What the check takes is the encoding of scalar values. -/
theorem wellFormed_of_utf8IsValid (s : Octets) (h : utf8IsValid s = true) : WellFormed s := by
  fun_induction utf8IsValid s with
  | case1 => exact .nil
  | case2 first rest hfirst ih =>
    refine .append (n := first.toNat) (t := [first]) ?_ ?_ (ih h)
    all_goals simp [BitVec.le_def, Scalar, encode] at hfirst ⊢; omega
  | case3 first _ hfirst second rest ih =>
    rw [Bool.and_eq_true, continuation_iff] at h
    simp only [BitVec.le_def, BitVec.toNat_ofNat, Nat.reducePow, Nat.reduceMod] at hfirst
    have htwo : encode ((first.toNat - 0xc0) * 0x40 + (second.toNat - 0x80)) = [first, second] := by
      rw [encode, if_neg (by omega), if_pos (by omega), octet_eq (x := first) (by omega),
        octet_eq (x := second) (by omega)]
    exact .append (.inl (by omega)) htwo (ih h.2)
  | case5 first _ _ hfirst second third rest ih =>
    simp only [Bool.and_eq_true, decide_eq_true_eq, continuation_iff, ite_le_octet, le_ite_octet] at h
    simp only [BitVec.le_def, BitVec.toNat_ofNat, Nat.reducePow, Nat.reduceMod] at hfirst h
    obtain ⟨⟨⟨hlow, hhigh⟩, hthird⟩, hrest⟩ := h
    refine .append (n := (first.toNat - 0xe0) * 0x1000 + (second.toNat - 0x80) * 0x40
      + (third.toNat - 0x80)) (t := [first, second, third]) ?_ ?_ (ih hrest)
    · unfold Scalar; split_ifs at hlow hhigh <;> omega
    · rw [encode, if_neg, if_neg, if_pos, octet_eq (x := first), octet_eq (x := second),
        octet_eq (x := third)] <;> split_ifs at hlow hhigh <;> omega
  | case7 first _ _ _ hfirst second third fourth rest ih =>
    simp only [Bool.and_eq_true, decide_eq_true_eq, continuation_iff, ite_le_octet, le_ite_octet] at h
    simp only [BitVec.le_def, BitVec.toNat_ofNat, Nat.reducePow, Nat.reduceMod] at hfirst h
    obtain ⟨⟨⟨⟨hlow, hhigh⟩, hthird⟩, hfourth⟩, hrest⟩ := h
    refine .append (n := (first.toNat - 0xf0) * 0x40000 + (second.toNat - 0x80) * 0x1000
      + (third.toNat - 0x80) * 0x40 + (fourth.toNat - 0x80)) (t := [first, second, third, fourth])
      ?_ ?_ (ih hrest)
    · unfold Scalar; split_ifs at hlow hhigh <;> omega
    · rw [encode, if_neg, if_neg, if_neg, octet_eq (x := first), octet_eq (x := second),
        octet_eq (x := third), octet_eq (x := fourth)] <;> split_ifs at hlow hhigh <;> omega
  | case4 | case6 | case8 | case9 => cases h

/-- The check takes the encoding of a scalar value and goes on behind it. -/
theorem utf8IsValid_encode {n : ℕ} (hn : Scalar n) (s : Octets) :
    utf8IsValid (encode n ++ s) = utf8IsValid s := by
  unfold Scalar at hn
  have htail : ∀ m, continuation (BitVec.ofNat 8 (0x80 + m % 0x40)) = true := by
    intro m
    rw [continuation_iff, toNat_octet (by omega)]
    omega
  rw [encode]
  split_ifs with h1 h2 h3
  · simp only [List.cons_append, List.nil_append, utf8IsValid.eq_def (_ :: s), BitVec.le_def]
    rw [if_pos (by simp; omega)]
  all_goals
    simp only [List.cons_append, List.nil_append, utf8IsValid, htail, Bool.true_and, Bool.and_true,
      ite_le_octet, le_ite_octet]
    simp (disch := omega) only [BitVec.le_def, toNat_octet]
  · rw [if_neg (by omega), if_pos (by omega)]
  · rw [if_neg (by omega), if_neg (by omega), if_pos (by omega), decide_eq_true, decide_eq_true]
    · rfl
    all_goals split_ifs <;> omega
  · rw [if_neg (by omega), if_neg (by omega), if_neg (by omega), if_pos (by omega), decide_eq_true,
      decide_eq_true]
    · rfl
    all_goals split_ifs <;> omega

/-- **The check is UTF-8 well-formedness.** -/
theorem utf8IsValid_iff {s : Octets} : utf8IsValid s = true ↔ WellFormed s := by
  constructor
  · exact wellFormed_of_utf8IsValid s
  · rintro ⟨scalars, hscalars, rfl⟩
    induction scalars with
    | nil => rfl
    | cons n scalars ih =>
      rw [List.flatMap_cons, utf8IsValid_encode (hscalars n List.mem_cons_self)]
      exact ih fun m hm => hscalars m (List.mem_cons_of_mem _ hm)

end Utf8

/-- The status with the given number, `-code` in the enumeration. -/
def Status.ofCode : ℕ → Status
  | 1 => .errArgument
  | 2 => .errLimit
  | 3 => .errFormat
  | 4 => .errCrc
  | 5 => .errVersion
  | 6 => .errService
  | 7 => .errMessageType
  | 8 => .errSequence
  | 9 => .errState
  | 10 => .errWouldBlock
  | 11 => .errTimeout
  | 12 => .errTransport
  | 13 => .errCrypto
  | 14 => .errAuthentication
  | 15 => .errReplay
  | 16 => .errUnsupported
  | 17 => .errUnimplemented
  | 18 => .errEntropy
  | 19 => .errAmbiguous
  | 20 => .errResource
  | 21 => .errIo
  | 22 => .errBusy
  | _ => .ok

theorem Status.ofCode_ne_ok {code : ℕ} (h1 : 1 ≤ code) (h22 : code ≤ 22) :
    Status.ofCode code ≠ .ok := by
  have : ∀ n : Fin 23, 1 ≤ n.val → Status.ofCode n.val ≠ .ok := by decide
  exact this ⟨code, by omega⟩ h1

def errorFieldCount : ℕ := 3
def errorDetailMax : ℕ := 256

section Decode

variable {δ : Type} (q : Qcbor δ)

/-- `next_labeled_item`. -/
def nextLabeledItem (decoder : δ) (expectedLabel : Int) : Except Status (QcborValue × δ) := do
  let (item, decoder) ← orReject .errFormat (q.getNext decoder)
  rejectIf (item.nestingLevel ≠ 1 ∨ item.label ≠ .int64 expectedLabel) .errFormat
  .ok (item.value, decoder)

variable {q} in
theorem nextLabeledItem_of_getNext {decoder decoder' : δ} {label : Int} {value : QcborValue}
    (h : q.getNext decoder = some (⟨value, .int64 label, 1⟩, decoder')) :
    nextLabeledItem q decoder label = .ok (value, decoder') := by
  simp [nextLabeledItem, h, orReject, rejectIf]

/-- `item_to_uint64`. -/
def itemToUint64 : QcborValue → Option ℕ
  | .int64 value => if 0 ≤ value then some value.toNat else none
  | .uint64 value => some value
  | _ => none

def itemText : QcborValue → Option Octets
  | .text s => some s
  | _ => none

/-- The report of an error, as the canonical encoder writes it. -/
def encodeRemoteError (code service : ℕ) (detail : Octets) : Octets :=
  Cbor.mapHead 3 ++ Cbor.uint 1 ++ Cbor.uint code ++ Cbor.uint 2 ++ Cbor.uint service ++
    Cbor.uint 3 ++ Cbor.text detail

/-- The tests of `decode_remote_error`; `decodedCap` bounds the re-encoding. -/
def remoteErrorCode (decodedCap : ℕ) (payload : Octets) (expectedService : ServiceId) :
    Except Status ℕ := do
  let (item, decoder) ← orReject .errFormat (q.getNext (q.decodeInit payload))
  rejectIf (item.value ≠ .map errorFieldCount ∨ item.label ≠ .none) .errFormat
  let (codeItem, decoder) ← nextLabeledItem q decoder 1
  let code ← orReject .errFormat (itemToUint64 codeItem)
  rejectIf (code < 1 ∨ 22 < code) .errFormat
  let (serviceItem, decoder) ← nextLabeledItem q decoder 2
  let service ← orReject .errFormat (itemToUint64 serviceItem)
  rejectIf (service ≠ expectedService.toNat) .errService
  let (detailItem, decoder) ← nextLabeledItem q decoder 3
  let detail ← orReject .errFormat (itemText detailItem)
  rejectIf (errorDetailMax < detail.length) .errFormat
  rejectIf (utf8IsValid detail = false ∨ q.finish decoder = false) .errFormat
  let canonical := encodeRemoteError code service detail
  rejectIf (decodedCap < canonical.length) .errLimit
  rejectIf (canonical ≠ payload) .errFormat
  .ok code

def decodeRemoteError (decodedCap : ℕ) (payload : Octets) (expectedService : ServiceId) : Status :=
  match remoteErrorCode q decodedCap payload expectedService with
  | .ok code => Status.ofCode code
  | .error status => status

end Decode

/-! ### Reports, and a decoder that reads them -/

/-- `payload` is the canonical report of `code` about `service`. -/
def IsReport (service : ServiceId) (code : ℕ) (payload : Octets) : Prop :=
  1 ≤ code ∧ code ≤ 22 ∧ ∃ detail : Octets, detail.length ≤ errorDetailMax ∧
    Utf8.WellFormed detail ∧ payload = encodeRemoteError code service.toNat detail

/-- A value of a flat map. -/
inductive FlatValue
  | uint (n : ℕ)
  | text (s : Octets)

def FlatValue.encode : FlatValue → Octets
  | .uint n => Cbor.uint n
  | .text s => Cbor.text s

/-- The value as the library hands it out. -/
def FlatValue.value : FlatValue → QcborValue
  | .uint n => if n < 2 ^ 63 then .int64 n else .uint64 n
  | .text s => .text s

def FlatValue.Small : FlatValue → Prop
  | .uint n => n < 2 ^ 64
  | .text s => s.length < 2 ^ 16

def encodeFlat (entries : List (ℕ × FlatValue)) : Octets :=
  Cbor.mapHead entries.length ++ entries.flatMap fun e => Cbor.uint e.1 ++ e.2.encode

section Library

variable {δ : Type} (q : Qcbor δ)

/-- The decoder gives these items and then finds nothing more. -/
def Qcbor.Reads : δ → List QcborItem → Prop
  | decoder, [] => q.finish decoder = true
  | decoder, item :: items => ∃ decoder', q.getNext decoder = some (item, decoder') ∧
      Qcbor.Reads decoder' items

/-- The library reads back the canonical flat maps. -/
def Qcbor.Correct : Prop :=
  ∀ entries : List (ℕ × FlatValue), entries.length < 24 → entries.Pairwise (·.1 < ·.1) →
    (∀ e ∈ entries, e.1 < 2 ^ 63 ∧ e.2.Small) →
    q.Reads (q.decodeInit (encodeFlat entries)) (⟨.map entries.length, .none, 0⟩ ::
      entries.map fun e => ⟨e.2.value, .int64 e.1, 1⟩)

theorem encodeRemoteError_eq_encodeFlat (code service : ℕ) (detail : Octets) :
    encodeRemoteError code service detail
      = encodeFlat [(1, .uint code), (2, .uint service), (3, .text detail)] := by
  simp [encodeRemoteError, encodeFlat, FlatValue.encode]

/-- **What is accepted is a report**, whatever the library does. -/
theorem isReport_of_remoteErrorCode {decodedCap code : ℕ} {payload : Octets} {service : ServiceId}
    (h : remoteErrorCode q decodedCap payload service = .ok code) :
    IsReport service code payload := by
  simp only [remoteErrorCode, bind_eq_ok, Prod.exists, rejectIf_eq_ok, exists_const, not_or, not_not,
    Bool.not_eq_false, Nat.not_lt, Except.ok.injEq] at h
  obtain ⟨item, _, -, -, codeItem, _, -, code', -, hcode, serviceItem, _, -, service', -, hservice, detailItem, _,
    -, detail, -, hlong, hutf8, -, hsame, rfl⟩ := h
  exact ⟨hcode.1, hcode.2, detail, hlong, utf8IsValid_iff.mp hutf8.1, by rw [← hservice, hsame]⟩

/-- **A report is accepted**, if the library reads it and the re-encoding has room. -/
theorem remoteErrorCode_of_isReport (hq : q.Correct) {decodedCap code : ℕ} {payload : Octets}
    {service : ServiceId} (h : IsReport service code payload) (hcap : payload.length ≤ decodedCap) :
    remoteErrorCode q decodedCap payload service = .ok code := by
  obtain ⟨hlow, hhigh, detail, hlong, hutf8, hpayload⟩ := h
  have hservice := service.isLt
  have hsmall : FlatValue.value (.uint service.toNat) = .int64 service.toNat :=
    if_pos (Nat.lt_trans hservice (by decide))
  have hsmall' : FlatValue.value (.uint code) = .int64 code := if_pos (by omega)
  have hreads := hq [(1, .uint code), (2, .uint service.toNat), (3, .text detail)] (by simp)
    (by simp) (by simp [FlatValue.Small]; unfold errorDetailMax at hlong; omega)
  rw [← encodeRemoteError_eq_encodeFlat, ← hpayload] at hreads
  obtain ⟨d₁, h₁, d₂, h₂, d₃, h₃, d₄, h₄, hfinish⟩ := hreads
  have hfinish : q.finish d₄ = true := hfinish
  have hcode : nextLabeledItem q d₁ 1 = .ok (.int64 code, d₂) :=
    nextLabeledItem_of_getNext (hsmall' ▸ h₂)
  have hsame : nextLabeledItem q d₂ 2 = .ok (.int64 service.toNat, d₃) :=
    nextLabeledItem_of_getNext (hsmall ▸ h₃)
  have hdetail : nextLabeledItem q d₃ 3 = .ok (.text detail, d₄) := nextLabeledItem_of_getNext h₄
  simp only [remoteErrorCode, h₁, hcode, hsame, hdetail, orReject, bind_ok, itemToUint64, itemText]
  simp [rejectIf, errorFieldCount, hfinish, utf8IsValid_iff.mpr hutf8, Nat.not_lt.mpr hlong,
    Nat.not_lt.mpr hhigh, Nat.one_le_iff_ne_zero.mp hlow, ← hpayload, Nat.not_lt.mpr hcap]

/-- Whatever else arrives is answered with one of three statuses. -/
theorem remoteErrorCode_failsOnly (decodedCap : ℕ) (payload : Octets) (service : ServiceId) :
    FailsOnly (fun status => status = .errFormat ∨ status = .errService ∨ status = .errLimit)
      (remoteErrorCode q decodedCap payload service) := by
  have hitem : ∀ decoder label, FailsOnly
      (fun status => status = .errFormat ∨ status = .errService ∨ status = .errLimit)
      (nextLabeledItem q decoder label) := by
    intro decoder label
    exact .bind (.orReject (.inl rfl) _) fun _ => .bind (.rejectIf (.inl rfl)) fun _ => .ok _
  refine .bind (.orReject (.inl rfl) _) fun _ => .bind (.rejectIf (.inl rfl)) fun _ => ?_
  refine .bind (hitem _ _) fun _ => .bind (.orReject (.inl rfl) _) fun _ => ?_
  refine .bind (.rejectIf (.inl rfl)) fun _ => .bind (hitem _ _) fun _ => ?_
  refine .bind (.orReject (.inl rfl) _) fun _ => .bind (.rejectIf (.inr (.inl rfl))) fun _ => ?_
  refine .bind (hitem _ _) fun _ => .bind (.orReject (.inl rfl) _) fun _ => ?_
  refine .bind (.rejectIf (.inl rfl)) fun _ => .bind (.rejectIf (.inl rfl)) fun _ => ?_
  exact .bind (.rejectIf (.inr (.inr rfl))) fun _ => .bind (.rejectIf (.inl rfl)) fun _ => .ok _

/-- A report never turns into success. -/
theorem decodeRemoteError_ne_ok (decodedCap : ℕ) (payload : Octets) (service : ServiceId) :
    decodeRemoteError q decodedCap payload service ≠ .ok := by
  rw [decodeRemoteError]
  rcases h : remoteErrorCode q decodedCap payload service with status | code
  · rcases remoteErrorCode_failsOnly q _ _ _ status h with rfl | rfl | rfl <;> simp
  · obtain ⟨hlow, hhigh, -⟩ := isReport_of_remoteErrorCode q h
    exact Status.ofCode_ne_ok hlow hhigh

end Library

/-! ### A decoder of flat maps -/

/-- The value behind a label. -/
def plainValue (rest : Octets) : Option (QcborValue × Octets) :=
  match Cbor.decodeHead rest with
  | some (0, n, rest) => some (FlatValue.value (.uint n), rest)
  | some (3, n, rest) => if rest.length < n then none else some (.text (rest.take n), rest.drop n)
  | _ => none

/-- The state is what is left to read, and whether the head of the map has been read. -/
def plainQcbor : Qcbor (Octets × Bool) where
  decodeInit payload := (payload, false)
  getNext
    | (rest, false) =>
      match Cbor.decodeHead rest with
      | some (5, n, rest) => some (⟨.map n, .none, 0⟩, rest, true)
      | _ => none
    | (rest, true) =>
      match Cbor.decodeHead rest with
      | some (0, label, rest) =>
        (plainValue rest).map fun (value, rest) => (⟨value, .int64 label, 1⟩, rest, true)
      | _ => none
  finish decoder := decoder.1.isEmpty

theorem plainValue_encode {v : FlatValue} (hv : v.Small) (s : Octets) :
    plainValue (v.encode ++ s) = some (v.value, s) := by
  cases v with
  | uint n =>
    rw [FlatValue.encode, Cbor.uint, plainValue, Cbor.decodeHead_head (by decide) hv]
    rfl
  | text t =>
    have ht : t.length < 2 ^ 64 := Nat.lt_trans hv (by decide)
    rw [FlatValue.encode, Cbor.text, plainValue, List.append_assoc,
      Cbor.decodeHead_head (by decide) ht]
    simp [Cbor.majorText, FlatValue.value]

theorem plainQcbor_correct : plainQcbor.Correct := by
  intro entries hlen hsorted hsmall
  refine ⟨(entries.flatMap fun e => Cbor.uint e.1 ++ e.2.encode, true), ?_, ?_⟩
  · simp only [plainQcbor, encodeFlat, Cbor.mapHead]
    rw [Cbor.decodeHead_head (by decide) (by omega)]
    rfl
  · -- one entry after the other
    clear hlen hsorted
    induction entries with
    | nil => rfl
    | cons e entries ih =>
      obtain ⟨hlabel, hvalue⟩ := hsmall e List.mem_cons_self
      refine ⟨_, ?_, ih fun e he => hsmall e (List.mem_cons_of_mem _ he)⟩
      simp only [plainQcbor, List.flatMap_cons, List.append_assoc, Cbor.uint]
      rw [Cbor.decodeHead_head (by decide) (by omega)]
      simp [Cbor.majorUnsigned, plainValue_encode hvalue]

end Pbns
