/-
Reflected cyclic redundancy checks of width 32.

`checksum poly` is the bit-by-bit definition: the register is shifted right one
bit at a time and the reflected polynomial is subtracted whenever a one drops
out, with all-ones initial value and final complement.  A program that looks up
one octet at a time in a table computes the same function as soon as its table
holds the eight-fold shifts (`foldl_tableUpdate`).

The argument is linearity: a shift distributes over exclusive or
(`shiftBit_xor`), and a register whose low octet is zero is merely shifted
(`shiftBits_of_low_zero`).  When the polynomial has its top bit nothing is lost from the register
(`shiftBit_injective`), so strings that differ in a short burst have different check values
(`checksum_burst`).
-/
import Pbns.Bytes
import Mathlib.Logic.Function.Iterate

namespace ReflectedCrc

variable {poly : BitVec 32}

/-- One bit through the register. -/
def shiftBit (poly c : BitVec 32) : BitVec 32 :=
  if c.getLsbD 0 then (c >>> 1) ^^^ poly else c >>> 1

/-- Eight bits through the register. -/
def shiftOctet (poly c : BitVec 32) : BitVec 32 := (shiftBit poly)^[8] c

/-- Absorb one octet, bit by bit. -/
def update (poly c : BitVec 32) (b : Octet) : BitVec 32 :=
  shiftOctet poly (c ^^^ b.setWidth 32)

/-- The check value of a string. -/
def checksum (poly : BitVec 32) (s : Octets) : BitVec 32 :=
  ~~~ (s.foldl (update poly) (BitVec.allOnes 32))

/-- Absorb one octet by looking the low octet of the register up in a table. -/
def tableUpdate (table : Octet → BitVec 32) (c : BitVec 32) (b : Octet) : BitVec 32 :=
  table ((c ^^^ b.setWidth 32).setWidth 8) ^^^ (c >>> 8)

theorem shiftBit_xor (x y : BitVec 32) :
    shiftBit poly (x ^^^ y) = shiftBit poly x ^^^ shiftBit poly y := by
  simp only [shiftBit, BitVec.getLsbD_xor, BitVec.ushiftRight_xor_distrib]
  rcases hx : x.getLsbD 0 <;> rcases hy : y.getLsbD 0
  · simp
  · simp [BitVec.xor_assoc]
  · simp only [Bool.xor_false, if_true, Bool.false_eq_true, if_false]
    rw [BitVec.xor_assoc, BitVec.xor_assoc, BitVec.xor_comm poly]
  · simp only [Bool.xor_self, Bool.false_eq_true, if_false, if_true]
    rw [BitVec.xor_assoc, ← BitVec.xor_assoc poly, BitVec.xor_comm poly, BitVec.xor_assoc,
      BitVec.xor_self, BitVec.xor_zero]

theorem shiftBits_xor (n : ℕ) (x y : BitVec 32) :
    (shiftBit poly)^[n] (x ^^^ y) = (shiftBit poly)^[n] x ^^^ (shiftBit poly)^[n] y := by
  induction n generalizing x y with
  | zero => rfl
  | succ n ih => rw [Function.iterate_succ_apply, shiftBit_xor, ih]; rfl

/-- A register whose low `n` bits are zero is merely shifted. -/
theorem shiftBits_of_low_zero {n : ℕ} {x : BitVec 32} (h : ∀ i < n, x.getLsbD i = false) :
    (shiftBit poly)^[n] x = x >>> n := by
  induction n generalizing x with
  | zero => simp
  | succ n ih =>
    have h0 : shiftBit poly x = x >>> 1 := by
      rw [shiftBit, h 0 (Nat.succ_pos n)]
      rfl
    rw [Function.iterate_succ_apply, h0, ih, ← BitVec.shiftRight_add, Nat.add_comm]
    intro i hi
    rw [BitVec.getLsbD_ushiftRight]
    exact h (1 + i) (by omega)

/-- The register splits into its low octet and the rest. -/
private theorem split_low (c : BitVec 32) (b : Octet) :
    c ^^^ b.setWidth 32
      = ((c ^^^ b.setWidth 32).setWidth 8).setWidth 32 ^^^ ((c >>> 8) <<< 8) := by
  ext i hi
  simp
  grind

theorem tableUpdate_eq {table : Octet → BitVec 32}
    (h : ∀ i, table i = shiftOctet poly (i.setWidth 32)) (c : BitVec 32) (b : Octet) :
    tableUpdate table c b = update poly c b := by
  have hhigh : ∀ i < 8, ((c >>> 8) <<< 8).getLsbD i = false := by
    intro i hi
    simp [BitVec.getLsbD_shiftLeft, hi]
  have hshift : ((c >>> 8) <<< 8) >>> 8 = c >>> 8 := by
    ext i hi
    simp
    grind
  rw [tableUpdate, update, h, split_low c b, shiftOctet, shiftOctet, shiftBits_xor,
    shiftBits_of_low_zero hhigh, hshift, ← split_low c b]

theorem foldl_tableUpdate {table : Octet → BitVec 32}
    (h : ∀ i, table i = shiftOctet poly (i.setWidth 32)) (s : Octets) (c : BitVec 32) :
    s.foldl (tableUpdate table) c = s.foldl (update poly) c := by
  induction s generalizing c with
  | nil => rfl
  | cons b s ih => rw [List.foldl_cons, List.foldl_cons, tableUpdate_eq h, ih]

/-! ### Bursts -/

/-- The bit that drops out of the register can be told from its top bit. -/
theorem shiftBit_injective (hpoly : poly.getLsbD 31 = true) :
    Function.Injective (shiftBit poly) := by
  -- by linearity only the zero register is shifted to zero
  have hzero : ∀ z, shiftBit poly z = 0#32 → z = 0#32 := by
    intro z hz
    rw [shiftBit] at hz
    split at hz
    · have htop : ((z >>> 1) ^^^ poly).getLsbD 31 = true := by
        rw [BitVec.getLsbD_xor, BitVec.getLsbD_ushiftRight, BitVec.getLsbD_of_ge z _ (by decide),
          hpoly]
        rfl
      rw [hz] at htop
      cases htop
    · rename_i hlow
      apply BitVec.eq_of_getLsbD_eq
      intro i _
      rw [BitVec.getLsbD_zero]
      cases i with
      | zero => exact Bool.of_not_eq_true hlow
      | succ i =>
        have hbit := congrArg (fun w : BitVec 32 => w.getLsbD i) hz
        simpa [BitVec.getLsbD_ushiftRight, Nat.add_comm] using hbit
  intro x y h
  have hxor : shiftBit poly (x ^^^ y) = 0#32 := by
    rw [shiftBit_xor, h, BitVec.xor_self]
  exact BitVec.xor_eq_zero_iff.mp (hzero _ hxor)

theorem shiftBits_injective (hpoly : poly.getLsbD 31 = true) (n : ℕ) :
    Function.Injective (shiftBit poly)^[n] :=
  (shiftBit_injective hpoly).iterate n

theorem foldl_update_injective (hpoly : poly.getLsbD 31 = true) (s : Octets) {c d : BitVec 32}
    (h : s.foldl (update poly) c = s.foldl (update poly) d) : c = d := by
  induction s generalizing c d with
  | nil => exact h
  | cons b s ih =>
    have hxor := shiftBits_injective hpoly 8 (ih h)
    have hcancel := congrArg (· ^^^ b.setWidth 32) hxor
    simpa [BitVec.xor_assoc] using hcancel

/-- A string of at most four octets as a register, its first octet lowest. -/
def word : Octets → BitVec 32
  | [] => 0#32
  | b :: s => b.setWidth 32 ^^^ (word s <<< 8)

theorem getLsbD_word {s : Octets} {i : ℕ} (h : 8 * s.length ≤ i) : (word s).getLsbD i = false := by
  induction s generalizing i with
  | nil => exact BitVec.getLsbD_zero
  | cons b s ih =>
    rw [List.length_cons] at h
    rw [word, BitVec.getLsbD_xor, BitVec.getLsbD_setWidth, BitVec.getLsbD_of_ge b i (by omega),
      BitVec.getLsbD_shiftLeft, ih (by omega)]
    simp

/-- Three octets leave the top octet of the register free. -/
theorem word_shifted {s : Octets} (h : s.length ≤ 3) : (word s <<< 8) >>> 8 = word s := by
  apply BitVec.eq_of_getLsbD_eq
  intro i hi
  rw [BitVec.getLsbD_ushiftRight, BitVec.getLsbD_shiftLeft]
  by_cases hfits : 8 + i < 32
  · simp [hfits]
  · rw [getLsbD_word (s := s) (i := i) (by omega)]
    simp [hfits]

/-- Up to four octets are absorbed at once. -/
theorem foldl_update_word {s : Octets} (h : s.length ≤ 4) (c : BitVec 32) :
    s.foldl (update poly) c = (shiftBit poly)^[8 * s.length] (c ^^^ word s) := by
  induction s generalizing c with
  | nil => simp [word]
  | cons b s ih =>
    rw [List.length_cons] at h
    have hlow : ∀ i < 8, (word s <<< 8).getLsbD i = false := by
      intro i hi
      simp [BitVec.getLsbD_shiftLeft, hi]
    -- the rest of the string moves into place as the first octet is shifted out
    have hshift : (shiftBit poly)^[8] (word s <<< 8) = word s := by
      rw [shiftBits_of_low_zero hlow, word_shifted (by omega)]
    rw [List.foldl_cons, ih (by omega), List.length_cons, Nat.mul_succ, Function.iterate_add_apply,
      word, ← BitVec.xor_assoc, shiftBits_xor 8, hshift]
    rfl

theorem word_injective {s t : Octets} (hs : s.length ≤ 4) (hlen : t.length = s.length)
    (h : word s = word t) : s = t := by
  induction s generalizing t with
  | nil => exact (List.length_eq_zero_iff.mp hlen).symm
  | cons b s ih =>
    obtain ⟨d, t, rfl⟩ : ∃ d t', t = d :: t' := List.exists_cons_of_length_eq_add_one hlen
    rw [List.length_cons] at hs
    rw [List.length_cons, List.length_cons, Nat.add_right_cancel_iff] at hlen
    have hfirst : ∀ (o : Octet) (u : Octets), (word (o :: u)).setWidth 8 = o := by
      intro o u
      apply BitVec.eq_of_getLsbD_eq
      intro i hi
      simp [word, hi]
    have hrest : ∀ (o : Octet) {u : Octets}, u.length ≤ 3 → word (o :: u) >>> 8 = word u := by
      intro o u hu
      have hhigh : (o.setWidth 32) >>> 8 = 0#32 := by
        apply BitVec.eq_of_getLsbD_eq
        intro i _
        simp
      rw [word, BitVec.ushiftRight_xor_distrib, hhigh, word_shifted hu, BitVec.zero_xor]
    have hword : word s = word t := by
      rw [← hrest b (by omega), ← hrest d (u := t) (by omega), h]
    rw [← hfirst b s, h, hfirst d t, ih (by omega) hlen hword]

/-- **A burst of at most four octets changes the check value.** -/
theorem checksum_burst (hpoly : poly.getLsbD 31 = true) {before x y after : Octets}
    (hx : x.length ≤ 4) (hlen : y.length = x.length)
    (h : checksum poly (before ++ x ++ after) = checksum poly (before ++ y ++ after)) : x = y := by
  have hregister := BitVec.not_inj.mp h
  rw [List.foldl_append, List.foldl_append, List.foldl_append (l := before ++ y),
    List.foldl_append] at hregister
  have hburst := foldl_update_injective hpoly after hregister
  rw [foldl_update_word (s := x) hx, foldl_update_word (s := y) (by omega), hlen] at hburst
  have hword := congrArg (before.foldl (update poly) (BitVec.allOnes 32) ^^^ ·)
    (shiftBits_injective hpoly _ hburst)
  rw [← BitVec.xor_assoc, ← BitVec.xor_assoc, BitVec.xor_self, BitVec.zero_xor,
    BitVec.zero_xor] at hword
  exact word_injective hx hlen hword

end ReflectedCrc
