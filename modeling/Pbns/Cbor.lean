/-
CBOR in preferred serialization, as far as the program's encoders write it: item
heads of least length, unsigned integers, octet and text strings, array and map
heads.

`decodeHead_head` — a head can be read back; so an item can be told from what follows it
(`head_append_inj`, `bytes_append_inj`, `text_append_inj`).
-/
import Pbns.Bytes

namespace Cbor

open Octets

def majorUnsigned : ℕ := 0
def majorNegative : ℕ := 1
def majorBytes : ℕ := 2
def majorText : ℕ := 3
def majorArray : ℕ := 4
def majorMap : ℕ := 5

/-- The head of an item: major type and argument, in the fewest octets. -/
def head (major argument : ℕ) : Octets :=
  if argument < 24 then [BitVec.ofNat 8 (major * 32 + argument)]
  else if argument < 2 ^ 8 then [BitVec.ofNat 8 (major * 32 + 24), BitVec.ofNat 8 argument]
  else if argument < 2 ^ 16 then
    [BitVec.ofNat 8 (major * 32 + 25), BitVec.ofNat 8 (argument / 2 ^ 8), BitVec.ofNat 8 argument]
  else if argument < 2 ^ 32 then
    BitVec.ofNat 8 (major * 32 + 26) :: writeU32Be (BitVec.ofNat 32 argument)
  else BitVec.ofNat 8 (major * 32 + 27) :: writeU64Be (BitVec.ofNat 64 argument)

def uint (n : ℕ) : Octets := head majorUnsigned n
def bytes (s : Octets) : Octets := head majorBytes s.length ++ s
def text (s : Octets) : Octets := head majorText s.length ++ s
def arrayHead (n : ℕ) : Octets := head majorArray n
def mapHead (n : ℕ) : Octets := head majorMap n

/-- Reading a head: major type, argument and what follows. -/
def decodeHead : Octets → Option (ℕ × ℕ × Octets)
  | [] => none
  | first :: rest =>
    let major := first.toNat / 32
    let info := first.toNat % 32
    if info < 24 then some (major, info, rest)
    else
      match info, rest with
      | 24, x :: rest => some (major, x.toNat, rest)
      | 25, x :: y :: rest => some (major, x.toNat * 2 ^ 8 + y.toNat, rest)
      | 26, rest => if rest.length < 4 then none else some (major, (readU32Be rest).toNat, rest.drop 4)
      | 27, rest => if rest.length < 8 then none else some (major, (readU64Be rest).toNat, rest.drop 8)
      | _, _ => none

theorem first_toNat {major : ℕ} (hmajor : major < 8) (info : ℕ) (hinfo : info < 32) :
    (BitVec.ofNat 8 (major * 32 + info)).toNat / 32 = major ∧
      (BitVec.ofNat 8 (major * 32 + info)).toNat % 32 = info := by
  rw [BitVec.toNat_ofNat, Nat.mod_eq_of_lt (by omega)]
  omega

/-- **A head can be read back**, whatever follows it. -/
theorem decodeHead_head {major n : ℕ} (hmajor : major < 8) (hn : n < 2 ^ 64) (s : Octets) :
    decodeHead (head major n ++ s) = some (major, n, s) := by
  rw [head]
  split_ifs with h24 h8 h16 h32
  · obtain ⟨hm, hi⟩ := first_toNat hmajor n (by omega)
    simp only [decodeHead, List.cons_append, List.nil_append, hm, hi]
    rw [if_pos h24]
  · obtain ⟨hm, hi⟩ := first_toNat hmajor 24 (by omega)
    simp only [decodeHead, List.cons_append, List.nil_append, hm, hi]
    rw [if_neg (by decide), BitVec.toNat_ofNat, Nat.mod_eq_of_lt h8]
  · obtain ⟨hm, hi⟩ := first_toNat hmajor 25 (by omega)
    simp only [decodeHead, List.cons_append, List.nil_append, hm, hi]
    simp
    omega
  · obtain ⟨hm, hi⟩ := first_toNat hmajor 26 (by omega)
    simp only [decodeHead, List.cons_append, hm, hi]
    simp [List.drop_left' (writeU32Be_length _)]
    omega
  · obtain ⟨hm, hi⟩ := first_toNat hmajor 27 (by omega)
    simp only [decodeHead, List.cons_append, hm, hi]
    simp [List.drop_left' (writeU64Be_length _)]
    omega

/-- **Heads are a prefix code**, for each major type. -/
theorem head_append_inj {major a b : ℕ} (hmajor : major < 8) (ha : a < 2 ^ 64) (hb : b < 2 ^ 64)
    {s t : Octets} (h : head major a ++ s = head major b ++ t) : a = b ∧ s = t := by
  have hread := congrArg decodeHead h
  rw [decodeHead_head hmajor ha, decodeHead_head hmajor hb] at hread
  simpa using hread

theorem bytes_append_inj {a b s t : Octets} (ha : a.length < 2 ^ 64) (hb : b.length < 2 ^ 64)
    (h : bytes a ++ s = bytes b ++ t) : a = b ∧ s = t := by
  rw [bytes, bytes, List.append_assoc, List.append_assoc] at h
  obtain ⟨hlen, h⟩ := head_append_inj (by decide) ha hb h
  exact List.append_inj h hlen

theorem text_append_inj {a b s t : Octets} (ha : a.length < 2 ^ 64) (hb : b.length < 2 ^ 64)
    (h : text a ++ s = text b ++ t) : a = b ∧ s = t := by
  rw [text, text, List.append_assoc, List.append_assoc] at h
  obtain ⟨hlen, h⟩ := head_append_inj (by decide) ha hb h
  exact List.append_inj h hlen

end Cbor
