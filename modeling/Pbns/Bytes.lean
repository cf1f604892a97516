/-
Octet strings and big-endian machine words.

Octets are `BitVec 8`, words are `BitVec 32` and `BitVec 64`.  A word is
serialised most significant octet first:

* `writeU32Be`, `readU32Be` — the four-octet form, written with the shifts and
  masks a C program uses;
* `writeU64Be`, `readU64Be` — the eight-octet form, read by shift-accumulate;
* `readU32Be_writeU32Be`, `writeU32Be_readU32Be` (and the 64-bit pair) — the two
  directions are mutually inverse on strings of the right length.
-/
import Mathlib.Algebra.Ring.Int.Defs
import Mathlib.Algebra.Ring.Nat
import Mathlib.Data.List.Basic
import Mathlib.Data.Vector.Defs

abbrev Octet := BitVec 8

abbrev Octets := List Octet

instance octetLawfulBEq : LawfulBEq Octet := inferInstance

/-- A fixed array of `n` octets. -/
abbrev OctetArray (n : ℕ) := List.Vector Octet n

namespace Octets

/-- The octet at index `i`, zero past the end. -/
def octetAt (s : Octets) (i : ℕ) : Octet := s.getD i 0#8

/-- Every octet is zero. -/
def allZero (s : Octets) : Bool := s.all (· == 0#8)

@[simp] theorem octetAt_cons_zero (a : Octet) (s : Octets) : octetAt (a :: s) 0 = a := rfl

@[simp] theorem octetAt_cons_succ (a : Octet) (s : Octets) (i : ℕ) :
    octetAt (a :: s) (i + 1) = octetAt s i := rfl

variable {s t : Octets} {i : ℕ}

theorem octetAt_append_left (h : i < s.length) :
    octetAt (s ++ t) i = octetAt s i := by
  simp [octetAt, List.getElem?_append_left h]

theorem octetAt_append_right (h : s.length ≤ i) :
    octetAt (s ++ t) i = octetAt t (i - s.length) := by
  simp [octetAt, List.getElem?_append_right h]

theorem octetAt_replicate {n : ℕ} (a : Octet) (h : i < n) : octetAt (List.replicate n a) i = a := by
  simp [octetAt, h]

theorem octetAt_eq_getElem (h : i < s.length) : octetAt s i = s[i] := by
  simp [octetAt, h]

/-! ### Four-octet words -/

def writeU32Be (v : BitVec 32) : Octets :=
  [(v >>> 24).setWidth 8, (v >>> 16).setWidth 8, (v >>> 8).setWidth 8, v.setWidth 8]

def readU32Be (s : Octets) : BitVec 32 :=
  ((octetAt s 0).setWidth 32 <<< 24) ||| ((octetAt s 1).setWidth 32 <<< 16) |||
    ((octetAt s 2).setWidth 32 <<< 8) ||| (octetAt s 3).setWidth 32

@[simp] theorem writeU32Be_length (v : BitVec 32) : (writeU32Be v).length = 4 := rfl

/-- Reading back what was written, whatever follows it. -/
@[simp] theorem readU32Be_writeU32Be (v : BitVec 32) (t : Octets) :
    readU32Be (writeU32Be v ++ t) = v := by
  simp only [readU32Be, writeU32Be, List.cons_append, octetAt_cons_zero, octetAt_cons_succ]
  ext i hi
  simp
  grind

theorem readU32Be_append (h : s.length = 4) :
    readU32Be (s ++ t) = readU32Be s := by
  simp only [readU32Be, octetAt_append_left (show 0 < s.length by omega),
    octetAt_append_left (show 1 < s.length by omega),
    octetAt_append_left (show 2 < s.length by omega),
    octetAt_append_left (show 3 < s.length by omega)]

theorem readU32Be_self (v : BitVec 32) : readU32Be (writeU32Be v) = v := by
  rw [← List.append_nil (writeU32Be v), readU32Be_writeU32Be]

private theorem writeU32Be_readU32Be_four (a b c d : Octet) :
    writeU32Be (readU32Be [a, b, c, d]) = [a, b, c, d] := by
  simp only [readU32Be, writeU32Be, octetAt_cons_zero, octetAt_cons_succ, List.cons.injEq, and_true]
  refine ⟨?_, ?_, ?_, ?_⟩
  · ext i hi
    simp
    grind
  · ext i hi
    simp
    grind
  · ext i hi
    simp
    grind
  · ext i hi
    simp

theorem writeU32Be_readU32Be (h : s.length = 4) :
    writeU32Be (readU32Be s) = s := by
  match s, h with
  | [a, b, c, d], _ => exact writeU32Be_readU32Be_four a b c d

theorem writeU32Be_injective {v w : BitVec 32} (h : writeU32Be v = writeU32Be w) : v = w := by
  rw [← readU32Be_self v, h, readU32Be_self]

/-! ### Eight-octet words -/

def writeU64Be (v : BitVec 64) : Octets :=
  (List.range 8).map fun i => (v >>> (56 - i * 8)).setWidth 8

def readU64Be (s : Octets) : BitVec 64 :=
  (s.take 8).foldl (fun v b => (v <<< 8) ||| b.setWidth 64) 0

@[simp] theorem writeU64Be_length (v : BitVec 64) : (writeU64Be v).length = 8 := rfl

@[simp] theorem readU64Be_writeU64Be (v : BitVec 64) (t : Octets) :
    readU64Be (writeU64Be v ++ t) = v := by
  rw [readU64Be, List.take_left' (writeU64Be_length v)]
  simp only [writeU64Be, List.range, List.range.loop, List.map, List.foldl]
  ext i hi
  simp
  grind

theorem readU64Be_append (h : s.length = 8) :
    readU64Be (s ++ t) = readU64Be s := by
  rw [readU64Be, readU64Be, List.take_left' h, List.take_of_length_le (by omega)]

theorem readU64Be_self (v : BitVec 64) : readU64Be (writeU64Be v) = v := by
  rw [← List.append_nil (writeU64Be v), readU64Be_writeU64Be]

private theorem writeU64Be_readU64Be_eight (a b c d e f g k : Octet) :
    writeU64Be (readU64Be [a, b, c, d, e, f, g, k]) = [a, b, c, d, e, f, g, k] := by
  simp only [readU64Be, writeU64Be, List.range, List.range.loop, List.map, List.take, List.foldl,
    List.cons.injEq, and_true]
  refine ⟨?_, ?_, ?_, ?_, ?_, ?_, ?_, ?_⟩ <;> ext i hi <;> simp <;> grind

theorem writeU64Be_readU64Be (h : s.length = 8) : writeU64Be (readU64Be s) = s := by
  match s, h with
  | [a, b, c, d, e, f, g, k], _ => exact writeU64Be_readU64Be_eight a b c d e f g k

/-- Adding one to a word that is not the last. -/
theorem toNat_next {v : BitVec 64} (h : v ≠ BitVec.allOnes 64) : (v + 1#64).toNat = v.toNat + 1 := by
  have hmax : v.toNat ≠ 2 ^ 64 - 1 := by
    intro heq
    exact h (BitVec.eq_of_toNat_eq (by rw [heq]; rfl))
  have := v.isLt
  rw [BitVec.toNat_add, Nat.mod_eq_of_lt (by simp; omega)]
  rfl

end Octets
