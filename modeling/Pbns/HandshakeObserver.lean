/-
The observer of the server's first flight (`src/transport/tls_handshake_observer.c`): it reads the
octets of the TLS records in front of the library and lets a single certificate pass.

The arrays are lists of octets with the count of those in use beside them, as in the source.
`observer_cuts` says that it does not matter how the octets arrive.
-/
import Pbns.FrameTypes

namespace Pbns.Tls

open Octets

def recordHandshake : Octet := 22#8
def handshakeCertificate : Octet := 11#8
def plaintextMax : ℕ := 16384
def certificateDerMax : ℕ := 4096

/-- `pbns_tls_handshake_observer` -/
structure HandshakeObserver where
  recordHeader : Octets
  handshakeHeader : Octets
  certificateListLength : Octets
  certificateEntryLength : Octets
  recordHeaderUsed : ℕ
  recordRemaining : ℕ
  handshakeHeaderUsed : ℕ
  handshakeRemaining : ℕ
  certificateListLengthUsed : ℕ
  certificateEntryLengthUsed : ℕ
  certificateBodyUsed : ℕ
  handshakeLength : ℕ
  certificateListLengthValue : ℕ
  certificateEntryLengthValue : ℕ
  complete : Bool
  failed : Bool
  certificateActive : Bool
  deriving DecidableEq

/-- `pbns_tls_handshake_observer_init`, and the wiped observer. -/
def observerInit : HandshakeObserver where
  recordHeader := List.replicate 5 0#8
  handshakeHeader := List.replicate 4 0#8
  certificateListLength := List.replicate 3 0#8
  certificateEntryLength := List.replicate 3 0#8
  recordHeaderUsed := 0
  recordRemaining := 0
  handshakeHeaderUsed := 0
  handshakeRemaining := 0
  certificateListLengthUsed := 0
  certificateEntryLengthUsed := 0
  certificateBodyUsed := 0
  handshakeLength := 0
  certificateListLengthValue := 0
  certificateEntryLengthValue := 0
  complete := false
  failed := false
  certificateActive := false

def octetOf (s : Octets) (i : ℕ) : ℕ := (s.getD i 0#8).toNat

def readU24 (s : Octets) : ℕ := octetOf s 0 * 2 ^ 16 + octetOf s 1 * 2 ^ 8 + octetOf s 2

/-- `fail` -/
def observerFail (o : HandshakeObserver) : Status × HandshakeObserver :=
  (.errAuthentication, { o with failed := true })

def beginRecord (o : HandshakeObserver) : Status × HandshakeObserver :=
  if octetOf o.recordHeader 0 ≠ recordHandshake.toNat ∨ octetOf o.recordHeader 1 ≠ 3 ∨
      octetOf o.recordHeader 2 ≠ 3 then observerFail o
  else
    let recordRemaining := octetOf o.recordHeader 3 * 2 ^ 8 + octetOf o.recordHeader 4
    let o := { o with recordRemaining, recordHeaderUsed := 0 }
    if recordRemaining = 0 ∨ plaintextMax < recordRemaining then observerFail o else (.ok, o)

def beginHandshake (o : HandshakeObserver) : Status × HandshakeObserver :=
  let handshakeLength := readU24 (o.handshakeHeader.drop 1)
  let certificateActive := octetOf o.handshakeHeader 0 = handshakeCertificate.toNat
  let o := { o with
    handshakeLength, handshakeRemaining := handshakeLength, handshakeHeaderUsed := 0
    certificateActive }
  if ¬ certificateActive then (.ok, o)
  else if handshakeLength < 6 then observerFail o
  else (.ok, { o with
    certificateListLengthUsed := 0, certificateEntryLengthUsed := 0, certificateBodyUsed := 0
    certificateListLengthValue := 0, certificateEntryLengthValue := 0 })

/-- An octet of the length of the certificate list. -/
def observeListLength (byte : Octet) (o : HandshakeObserver) : Status × HandshakeObserver :=
  let o := { o with
    certificateListLength := o.certificateListLength.set o.certificateListLengthUsed byte
    certificateListLengthUsed := o.certificateListLengthUsed + 1 }
  if o.certificateListLengthUsed = 3 then
    let certificateListLengthValue := readU24 o.certificateListLength
    let o := { o with certificateListLengthValue }
    if certificateListLengthValue < 3 ∨ o.handshakeLength ≠ certificateListLengthValue + 3 then
      observerFail o
    else (.ok, o)
  else (.ok, o)

/-- An octet of the length of the certificate. -/
def observeEntryLength (byte : Octet) (o : HandshakeObserver) : Status × HandshakeObserver :=
  let o := { o with
    certificateEntryLength := o.certificateEntryLength.set o.certificateEntryLengthUsed byte
    certificateEntryLengthUsed := o.certificateEntryLengthUsed + 1 }
  if o.certificateEntryLengthUsed = 3 then
    let certificateEntryLengthValue := readU24 o.certificateEntryLength
    let o := { o with certificateEntryLengthValue }
    if certificateEntryLengthValue = 0 ∨ certificateDerMax < certificateEntryLengthValue ∨
        certificateEntryLengthValue ≠ o.certificateListLengthValue - 3 then observerFail o
    else (.ok, o)
  else (.ok, o)

def observeCertificateBody (byte : Octet) (o : HandshakeObserver) : Status × HandshakeObserver :=
  let seen :=
    if o.certificateBodyUsed < 3 then observeListLength byte o
    else if o.certificateBodyUsed < 6 then observeEntryLength byte o
    else (.ok, o)
  match seen with
  | (.ok, o) => (.ok, { o with certificateBodyUsed := o.certificateBodyUsed + 1 })
  | (status, o) => (status, o)

/-- The end of a handshake message. -/
def endHandshake (o : HandshakeObserver) : Status × HandshakeObserver :=
  if o.certificateActive then
    if o.certificateBodyUsed ≠ o.handshakeLength ∨ o.certificateEntryLengthUsed ≠ 3 then observerFail o
    else (.ok, { o with complete := true, certificateActive := false })
  else (.ok, { o with handshakeHeaderUsed := 0 })

def observeHandshakeByte (byte : Octet) (o : HandshakeObserver) : Status × HandshakeObserver :=
  if o.handshakeRemaining = 0 then
    let o := { o with
      handshakeHeader := o.handshakeHeader.set o.handshakeHeaderUsed byte
      handshakeHeaderUsed := o.handshakeHeaderUsed + 1 }
    if o.handshakeHeaderUsed = 4 then beginHandshake o else (.ok, o)
  else
    match if o.certificateActive then observeCertificateBody byte o else (.ok, o) with
    | (.ok, o) =>
      if o.handshakeRemaining = 0 then observerFail o
      else
        let o := { o with handshakeRemaining := o.handshakeRemaining - 1 }
        if o.handshakeRemaining = 0 then endHandshake o else (.ok, o)
    | (status, o) => (status, o)

/-- The loop of `pbns_tls_handshake_observer_observe`. -/
def observeLoop : Octets → HandshakeObserver → Status × HandshakeObserver
  | [], o => (.ok, o)
  | byte :: rest, o =>
    if o.recordRemaining = 0 then
      let o := { o with
        recordHeader := o.recordHeader.set o.recordHeaderUsed byte
        recordHeaderUsed := o.recordHeaderUsed + 1 }
      if o.recordHeaderUsed = 5 then
        match beginRecord o with
        | (.ok, o) => observeLoop rest o
        | (status, o) => (status, o)
      else observeLoop rest o
    else
      match observeHandshakeByte byte o with
      | (.ok, o) =>
        let o := { o with recordRemaining := o.recordRemaining - 1 }
        if o.complete then (.ok, o)
        else observeLoop rest (if o.recordRemaining = 0 then { o with recordHeaderUsed := 0 } else o)
      | (status, o) => (status, o)

/-- `pbns_tls_handshake_observer_observe` -/
def observe (bytes : Octets) (o : HandshakeObserver) : Status × HandshakeObserver :=
  if o.failed then (.errAuthentication, o)
  else if o.complete then (.ok, o)
  else observeLoop bytes o

/-! ### However the octets arrive -/

/-- A status other than `.ok` comes with a failed observer. -/
theorem observeHandshakeByte_status {o : HandshakeObserver} (h : o.failed = false) (byte : Octet) :
    (observeHandshakeByte byte o).1
      = if (observeHandshakeByte byte o).2.failed then .errAuthentication else .ok := by
  unfold observeHandshakeByte beginHandshake observeCertificateBody observeListLength
    observeEntryLength endHandshake observerFail
  grind

theorem beginRecord_status {o : HandshakeObserver} (h : o.failed = false) :
    (beginRecord o).1 = (if (beginRecord o).2.failed then .errAuthentication else .ok) ∧
      (beginRecord o).2.complete = o.complete := by
  unfold beginRecord observerFail
  grind

theorem observeLoop_append (s t : Octets) {o : HandshakeObserver} (hf : o.failed = false)
    (hc : o.complete = false) : observeLoop (s ++ t) o = observe t (observeLoop s o).2 := by
  fun_induction observeLoop s o with
  | case1 o => simp [observe, hf, hc]
  | case2 byte s o hr o₁ hfull o' hbegin ih =>
    have hbegun := beginRecord_status (o := o₁) hf
    grind [observeLoop]
  | case3 byte s o hr o₁ hfull status o' hbad hbegin =>
    have hbegun := beginRecord_status (o := o₁) hf
    grind [observeLoop, observe]
  | case4 byte s o hr o₁ hmore ih => grind [observeLoop]
  | case5 byte s o hr o' hbyte =>
    have hstatus := observeHandshakeByte_status hf byte
    grind [observeLoop, observe]
  | case6 byte s o hr o' hbyte o₁ hmore ih =>
    have hstatus := observeHandshakeByte_status hf byte
    grind [observeLoop]
  | case7 byte s o hr status o' hbad hbyte =>
    have hstatus := observeHandshakeByte_status hf byte
    grind [observeLoop, observe]

/-- Two calls are one call. -/
theorem observe_append (s t : Octets) (o : HandshakeObserver) :
    observe (s ++ t) o = observe t (observe s o).2 := by
  cases hf : o.failed with
  | true => simp [observe, hf]
  | false =>
    cases hc : o.complete with
    | true => simp [observe, hf, hc]
    | false => simpa [observe, hf, hc] using observeLoop_append s t hf hc

/-- **The calls together** return and leave what one call with all the octets would. -/
theorem observer_cuts (chunks : List Octets) (last : Octets) (o : HandshakeObserver) :
    observe last (chunks.foldl (fun o s => (observe s o).2) o) = observe (chunks.flatten ++ last) o := by
  induction chunks generalizing o with
  | nil => rfl
  | cons s chunks ih => rw [List.foldl_cons, ih, List.flatten_cons, List.append_assoc, observe_append s]

end Pbns.Tls
